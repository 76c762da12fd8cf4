import StatusRouter.Resource.KafkaSource

/-!
# Consumer groups

A consumer group is a set of consumers that read on behalf of another resource, which owns it.
-/

namespace StatusRouter

/-- What is wanted of a consumer group. -/
structure ConsumerGroupSpec where
  replicas : Option Int32
  /-- Selects the pods that may be scheduled consumers. -/
  selector : Option (KeyMap String)
  deriving DecidableEq

namespace ConsumerGroupSpec

def shape : Shape :=
  .record
    ⟨"ConsumerGroupSpec",
      "A set of consumers reading on behalf of a user-facing resource.\n\n" ++
        "Consumer groups are created by the controllers of the resources they serve (e.g. " ++
        "`KafkaSource`) and carry an owner reference back to them.",
      .strict⟩ <|
    .cons ⟨"replicas", "", .omitted⟩ (.optional (.integer .int32)) <|
    .cons ⟨"selector", "Selects the dispatcher pods that may be scheduled consumers.", .omitted⟩
      (.optional (.map .string)) .nil

def toValue (spec : ConsumerGroupSpec) : shape.Value :=
  (spec.replicas, spec.selector, ())

def ofValue : shape.Value → ConsumerGroupSpec
  | (replicas, selector, ()) => ⟨replicas, selector⟩

@[simp] theorem ofValue_toValue (spec : ConsumerGroupSpec) : ofValue spec.toValue = spec := rfl

instance : Shaped ConsumerGroupSpec := ⟨shape, toValue, ofValue, ofValue_toValue⟩

end ConsumerGroupSpec

/-- What has been achieved of a consumer group. -/
structure ConsumerGroupStatus where
  conditions : List Condition
  replicas : Option Int32
  deriving DecidableEq

namespace ConsumerGroupStatus

def shape : Shape :=
  .record ⟨"ConsumerGroupStatus", "", .strict⟩ <|
    .cons ⟨"conditions", "", .defaulted⟩ (.list Condition.shape) <|
    .cons ⟨"replicas", "", .omitted⟩ (.optional (.integer .int32)) .nil

def toValue (status : ConsumerGroupStatus) : shape.Value :=
  (status.conditions.map Condition.toValue, status.replicas, ())

def ofValue : shape.Value → ConsumerGroupStatus
  | (conditions, replicas, ()) => ⟨List.map Condition.ofValue conditions, replicas⟩

@[simp] theorem ofValue_toValue (status : ConsumerGroupStatus) :
    ofValue status.toValue = status :=
  congrArg (fun conditions => { status with conditions })
    (map_map_of_inverse Condition.ofValue_toValue status.conditions)

instance : Shaped ConsumerGroupStatus := ⟨shape, toValue, ofValue, ofValue_toValue⟩

end ConsumerGroupStatus

/-- A consumer group. -/
structure ConsumerGroup where
  metadata : Metadata
  spec : ConsumerGroupSpec
  status : Option ConsumerGroupStatus

namespace ConsumerGroup

def shape : Shape :=
  .record ⟨"ConsumerGroup", "", .strict⟩ <|
    .cons ⟨"metadata", "", .required⟩ Metadata.shape <|
    .cons ⟨"spec", "", .required⟩ ConsumerGroupSpec.shape <|
    .cons ⟨"status", "", .nullable⟩ (.optional ConsumerGroupStatus.shape) .nil

def toValue (group : ConsumerGroup) : shape.Value :=
  (group.metadata.toValue, group.spec.toValue, group.status.map ConsumerGroupStatus.toValue, ())

def ofValue : shape.Value → ConsumerGroup
  | (metadata, spec, status, ()) =>
    ⟨.ofValue metadata, .ofValue spec, Option.map ConsumerGroupStatus.ofValue status⟩

@[simp] theorem ofValue_toValue (group : ConsumerGroup) : ofValue group.toValue = group := by
  obtain ⟨metadata, spec, status⟩ := group
  show ConsumerGroup.mk _ _ _ = _
  rw [Metadata.ofValue_toValue, ConsumerGroupSpec.ofValue_toValue,
    optionMap_map_of_inverse ConsumerGroupStatus.ofValue_toValue]

instance : Shaped ConsumerGroup := ⟨shape, toValue, ofValue, ofValue_toValue⟩

end ConsumerGroup

end StatusRouter
