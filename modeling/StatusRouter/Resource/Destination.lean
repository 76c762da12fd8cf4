import StatusRouter.Shape.Shaped

/-!
# Destinations and addresses

A destination says where events are to be delivered: a reference to an object, a literal URI, or
both.  An address is what a destination resolves to.
-/

namespace StatusRouter

/-- A text that may be missing, and is then left out. -/
def Fields.optionalText (key doc : String) (rest : Fields) : Fields :=
  .cons ⟨key, doc, .omitted⟩ (.optional .string) rest

/-- The resolved address of a sink. -/
structure Addressable where
  name : Option String
  url : Option String
  caCerts : Option String
  audience : Option String
  deriving DecidableEq

namespace Addressable

/-- The URL, if one was resolved and it is not empty. -/
def resolvedUrl? (address : Addressable) : Option String :=
  address.url.filter fun url => !url.isEmpty

theorem resolvedUrl?_eq_some_iff {address : Addressable} {url : String} :
    address.resolvedUrl? = some url ↔ address.url = some url ∧ url ≠ "" := by
  simp [resolvedUrl?, Option.filter_eq_some_iff]

theorem resolvedUrl?_eq_none_iff {address : Addressable} :
    address.resolvedUrl? = none ↔ address.url = none ∨ address.url = some "" := by
  cases hurl : address.url <;> simp [resolvedUrl?, hurl, Option.filter]

def fields : Fields :=
  .optionalText "name" "" <|
  .optionalText "url" "" <|
  .optionalText "CACerts" "PEM encoded CA certificates used to verify the sink's TLS endpoint." <|
  .optionalText "audience" "" .nil

def shape : Shape :=
  .record ⟨"Addressable", "The resolved address of a sink.", .strict⟩ fields

def toValue (address : Addressable) : shape.Value :=
  (address.name, address.url, address.caCerts, address.audience, ())

def ofValue : shape.Value → Addressable
  | (name, url, caCerts, audience, ()) => ⟨name, url, caCerts, audience⟩

@[simp] theorem ofValue_toValue (address : Addressable) : ofValue address.toValue = address := rfl

instance : Shaped Addressable := ⟨shape, toValue, ofValue, ofValue_toValue⟩

end Addressable

/-- A reference to an object in the same namespace, unless one is given. -/
structure KReference where
  kind : String
  name : String
  apiVersion : String
  «namespace» : Option String
  deriving DecidableEq

namespace KReference

def fields : Fields :=
  .cons ⟨"kind", "", .required⟩ .string <|
  .cons ⟨"name", "", .required⟩ .string <|
  .cons ⟨"apiVersion", "", .required⟩ .string <|
  .optionalText "namespace" "" .nil

def shape : Shape :=
  .record ⟨"KReference", "A reference to an object in the same namespace, unless one is given.",
    .strict⟩ fields

def toValue (reference : KReference) : shape.Value :=
  (reference.kind, reference.name, reference.apiVersion, reference.namespace, ())

def ofValue : shape.Value → KReference
  | (kind, name, apiVersion, ns, ()) => ⟨kind, name, apiVersion, ns⟩

@[simp] theorem ofValue_toValue (reference : KReference) :
    ofValue reference.toValue = reference := rfl

instance : Shaped KReference := ⟨shape, toValue, ofValue, ofValue_toValue⟩

end KReference

/-- Where events are delivered. -/
structure Destination where
  reference : Option KReference
  uri : Option String
  caCerts : Option String
  audience : Option String
  deriving DecidableEq

namespace Destination

def fields : Fields :=
  .cons ⟨"ref", "", .omitted⟩ (.optional KReference.shape) <|
  .optionalText "uri" "" <|
  .optionalText "CACerts" "" <|
  .optionalText "audience" "" .nil

def shape : Shape :=
  .record
    ⟨"Destination",
      "Where a source delivers events: either an object reference resolved to an address by the " ++
        "controller, or a literal URI, or both.",
      .strict⟩
    fields

def toValue (destination : Destination) : shape.Value :=
  (destination.reference.map KReference.toValue, destination.uri, destination.caCerts,
    destination.audience, ())

def ofValue : shape.Value → Destination
  | (reference, uri, caCerts, audience, ()) =>
    ⟨Option.map KReference.ofValue reference, uri, caCerts, audience⟩

@[simp] theorem ofValue_toValue (destination : Destination) :
    ofValue destination.toValue = destination := by
  obtain ⟨reference, uri, caCerts, audience⟩ := destination
  cases reference <;> rfl

instance : Shaped Destination := ⟨shape, toValue, ofValue, ofValue_toValue⟩

end Destination

end StatusRouter
