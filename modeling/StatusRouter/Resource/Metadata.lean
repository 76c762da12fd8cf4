import StatusRouter.Resource.Destination

/-!
# Object metadata

What every object of the cluster carries besides its own content: its name, its owners, its labels
and its history.  Metadata is written by many parties, so it is read loosely: unknown members are
passed over, and a text that has to be there is empty when it is not.
-/

namespace StatusRouter

/-- A record that is read loosely. -/
def Shape.looseRecord (name : String) (fields : Fields) : Shape :=
  .record ⟨name, "", .loose⟩ fields

/-- A field that may be missing, and is then left out. -/
def Fields.optionalField (key : String) (s : Shape) (rest : Fields) : Fields :=
  .cons ⟨key, "", .omitted⟩ (.optional s) rest

/-- A text that is empty when it is missing. -/
def Fields.lenientText (key : String) (rest : Fields) : Fields :=
  .cons ⟨key, "", .lenient⟩ .string rest

/-- A reference from an object to one that owns it. -/
structure OwnerReference where
  apiVersion : String
  blockOwnerDeletion : Option Bool
  controller : Option Bool
  kind : String
  name : String
  uid : String
  deriving DecidableEq

namespace OwnerReference

def shape : Shape :=
  .looseRecord "OwnerReference" <|
    .lenientText "apiVersion" <|
    .optionalField "blockOwnerDeletion" .boolean <|
    .optionalField "controller" .boolean <|
    .lenientText "kind" <|
    .lenientText "name" <|
    .lenientText "uid" .nil

def toValue (owner : OwnerReference) : shape.Value :=
  (owner.apiVersion, owner.blockOwnerDeletion, owner.controller, owner.kind, owner.name, owner.uid,
    ())

def ofValue : shape.Value → OwnerReference
  | (apiVersion, blockOwnerDeletion, controller, kind, name, uid, ()) =>
    ⟨apiVersion, blockOwnerDeletion, controller, kind, name, uid⟩

@[simp] theorem ofValue_toValue (owner : OwnerReference) : ofValue owner.toValue = owner := rfl

end OwnerReference

/-- Who set which fields of an object. -/
structure ManagedFields where
  apiVersion : Option String
  fieldsType : Option String
  fieldsV1 : Option Json
  manager : Option String
  operation : Option String
  subresource : Option String
  time : Option Instant

namespace ManagedFields

def shape : Shape :=
  .looseRecord "ManagedFieldsEntry" <|
    .optionalField "apiVersion" .string <|
    .optionalField "fieldsType" .string <|
    .optionalField "fieldsV1" .any <|
    .optionalField "manager" .string <|
    .optionalField "operation" .string <|
    .optionalField "subresource" .string <|
    .optionalField "time" .wholeTime .nil

def toValue (entry : ManagedFields) : shape.Value :=
  (entry.apiVersion, entry.fieldsType, entry.fieldsV1, entry.manager, entry.operation,
    entry.subresource, entry.time, ())

def ofValue : shape.Value → ManagedFields
  | (apiVersion, fieldsType, fieldsV1, manager, operation, subresource, time, ()) =>
    ⟨apiVersion, fieldsType, fieldsV1, manager, operation, subresource, time⟩

@[simp] theorem ofValue_toValue (entry : ManagedFields) : ofValue entry.toValue = entry := rfl

end ManagedFields

/-- What every object of the cluster carries. -/
structure Metadata where
  annotations : Option (KeyMap String)
  creationTimestamp : Option Instant
  deletionGracePeriodSeconds : Option Int64
  deletionTimestamp : Option Instant
  finalizers : Option (List String)
  generateName : Option String
  generation : Option Int64
  labels : Option (KeyMap String)
  managedFields : Option (List ManagedFields)
  name : Option String
  «namespace» : Option String
  ownerReferences : Option (List OwnerReference)
  resourceVersion : Option String
  selfLink : Option String
  uid : Option String

namespace Metadata

def shape : Shape :=
  .looseRecord "ObjectMeta" <|
    .optionalField "annotations" (.map .string) <|
    .optionalField "creationTimestamp" .wholeTime <|
    .optionalField "deletionGracePeriodSeconds" (.integer .int64) <|
    .optionalField "deletionTimestamp" .wholeTime <|
    .optionalField "finalizers" (.list .string) <|
    .optionalField "generateName" .string <|
    .optionalField "generation" (.integer .int64) <|
    .optionalField "labels" (.map .string) <|
    .optionalField "managedFields" (.list ManagedFields.shape) <|
    .optionalField "name" .string <|
    .optionalField "namespace" .string <|
    .optionalField "ownerReferences" (.list OwnerReference.shape) <|
    .optionalField "resourceVersion" .string <|
    .optionalField "selfLink" .string <|
    .optionalField "uid" .string .nil

def toValue (m : Metadata) : shape.Value :=
  (m.annotations, m.creationTimestamp, m.deletionGracePeriodSeconds, m.deletionTimestamp,
    m.finalizers, m.generateName, m.generation, m.labels,
    m.managedFields.map (List.map ManagedFields.toValue), m.name, m.namespace,
    m.ownerReferences.map (List.map OwnerReference.toValue), m.resourceVersion, m.selfLink, m.uid,
    ())

def ofValue : shape.Value → Metadata
  | (annotations, creationTimestamp, deletionGracePeriodSeconds, deletionTimestamp, finalizers,
      generateName, generation, labels, managedFields, name, ns, ownerReferences, resourceVersion,
      selfLink, uid, ()) =>
    { annotations, creationTimestamp, deletionGracePeriodSeconds, deletionTimestamp, finalizers,
      generateName, generation, labels
      managedFields := Option.map (List.map ManagedFields.ofValue) managedFields
      name
      «namespace» := ns
      ownerReferences := Option.map (List.map OwnerReference.ofValue) ownerReferences
      resourceVersion, selfLink, uid }

@[simp] theorem ofValue_toValue (m : Metadata) : ofValue m.toValue = m := by
  have hfields := optionMap_map_of_inverse
    (map_map_of_inverse ManagedFields.ofValue_toValue) m.managedFields
  have howners := optionMap_map_of_inverse
    (map_map_of_inverse OwnerReference.ofValue_toValue) m.ownerReferences
  calc ofValue m.toValue
      = { m with
          managedFields := (m.managedFields.map (List.map ManagedFields.toValue)).map
            (List.map ManagedFields.ofValue)
          ownerReferences := (m.ownerReferences.map (List.map OwnerReference.toValue)).map
            (List.map OwnerReference.ofValue) } := rfl
    _ = m := by rw [hfields, howners]

end Metadata

end StatusRouter
