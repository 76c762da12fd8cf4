import StatusRouter.Proofs.Shape.Document
import StatusRouter.Resource.ConsumerGroup

/-!
# Writing, reading and the published schema agree

The attributes of a field are read three times: to write it, to read it, and to publish its schema.
For the types that are exchanged the three agree (`published_resources`).  What a value is written
as fits the document of its type.  Without a member that the document requires, it no longer fits
and is not read.  Without other members it still fits, and is read with their defaults in their
place.

What the defaults are is said for each type on its own (`Defaulting`), not by its shape.
-/

namespace StatusRouter

open Json (Fits Mismatch Rearranged)

/-! ## Defaults -/

/-- A value of a shape with fields set to their initial values. -/
def Shape.reset (removed : List String) : (s : Shape) → s.Value → s.Value
  | .record _ fields, v => fields.reset removed v
  | _, v => v

/-- A type with defaults for fields of its values, which are the initial values of their shapes. -/
class Defaulting (α : Type) [Shaped α] where
  /-- A value with the fields with these keys set to their defaults; a field that must be there has
  no default and stays as it is. -/
  withDefaults : List String → α → α
  toValue_withDefaults (removed : List String) (a : α) :
    Shaped.toValue (withDefaults removed a) = (Shaped.shape α).reset removed (Shaped.toValue a)

instance : Defaulting Condition where
  withDefaults removed c :=
    { c with
      severity := if "severity" ∈ removed then .error else c.severity
      lastTransitionTime := if "lastTransitionTime" ∈ removed then none else c.lastTransitionTime
      reason := if "reason" ∈ removed then "" else c.reason
      message := if "message" ∈ removed then "" else c.message }
  toValue_withDefaults removed c := by
    show (_, _, Severity.toValue (if "severity" ∈ removed then .error else _), _) = _
    rw [apply_ite Severity.toValue]
    rfl

instance : Defaulting Addressable where
  withDefaults removed address :=
    { name := if "name" ∈ removed then none else address.name
      url := if "url" ∈ removed then none else address.url
      caCerts := if "CACerts" ∈ removed then none else address.caCerts
      audience := if "audience" ∈ removed then none else address.audience }
  toValue_withDefaults _ _ := rfl

instance : Defaulting KReference where
  withDefaults removed reference :=
    { reference with «namespace» := if "namespace" ∈ removed then none else reference.namespace }
  toValue_withDefaults _ _ := rfl

instance : Defaulting Destination where
  withDefaults removed destination :=
    { reference := if "ref" ∈ removed then none else destination.reference
      uri := if "uri" ∈ removed then none else destination.uri
      caCerts := if "CACerts" ∈ removed then none else destination.caCerts
      audience := if "audience" ∈ removed then none else destination.audience }
  toValue_withDefaults removed destination := by
    show (Option.map KReference.toValue (if "ref" ∈ removed then none else _), _) = _
    rw [apply_ite (Option.map KReference.toValue)]
    rfl

instance : Defaulting KafkaSourceSpec where
  withDefaults removed spec :=
    { spec with
      consumerGroup := if "consumerGroup" ∈ removed then none else spec.consumerGroup
      consumers := if "consumers" ∈ removed then none else spec.consumers }
  toValue_withDefaults _ _ := rfl

instance : Defaulting KafkaSourceStatus where
  withDefaults removed status :=
    { observedGeneration :=
        if "observedGeneration" ∈ removed then none else status.observedGeneration
      conditions := if "conditions" ∈ removed then [] else status.conditions
      sinkUri := if "sinkUri" ∈ removed then none else status.sinkUri
      sinkCaCerts := if "sinkCACerts" ∈ removed then none else status.sinkCaCerts
      sinkAudience := if "sinkAudience" ∈ removed then none else status.sinkAudience
      consumers := if "consumers" ∈ removed then 0 else status.consumers
      claims := if "claims" ∈ removed then "" else status.claims }
  toValue_withDefaults removed status := by
    show (_, List.map Condition.toValue (if "conditions" ∈ removed then [] else _), _) = _
    rw [apply_ite (List.map Condition.toValue)]
    rfl

instance : Defaulting ConsumerGroupSpec where
  withDefaults removed spec :=
    { replicas := if "replicas" ∈ removed then none else spec.replicas
      selector := if "selector" ∈ removed then none else spec.selector }
  toValue_withDefaults _ _ := rfl

instance : Defaulting ConsumerGroupStatus where
  withDefaults removed status :=
    { conditions := if "conditions" ∈ removed then [] else status.conditions
      replicas := if "replicas" ∈ removed then none else status.replicas }
  toValue_withDefaults removed status := by
    show (List.map Condition.toValue (if "conditions" ∈ removed then [] else _), _) = _
    rw [apply_ite (List.map Condition.toValue)]
    rfl

/-! ## Agreement -/

/-- Whether the schema of a record can be published: the shape is faithful, every field that may be
missing has an initial value, and the named parts have different names of letters and digits. -/
def Shape.isPublishable : Shape → Bool
  | .record info fields =>
    (Shape.record info fields).isFaithful && fields.isSparing &&
      decide (fields.namedParts.map Prod.fst).Nodup &&
      fields.namedParts.all fun part => part.1.toList.all Char.isAlphanum
  | _ => false

namespace Shape

variable {s : Shape} {v : s.Value} {j : Json}

theorem decode_without_of_isPublishable (h : s.isPublishable = true)
    (hj : Rearranged (s.encode v) j) {removed : List String}
    (hremoved : ∀ key ∈ removed, key ∉ Schema.requiredKeys (Schema.document s)) :
    s.decode (j.without removed) = .ok (s.reset removed v) ∧
      Fits (Schema.document s) (Schema.document s) (j.without removed) := by
  cases s with
  | record info fields =>
      simp only [isPublishable, Bool.and_eq_true, decide_eq_true_eq, List.all_eq_true] at h
      obtain ⟨⟨⟨hfaithful, hsparing⟩, hnames⟩, hletters⟩ := h
      have hspared (key : String) (hkey : key ∈ removed) : key ∉ fields.required :=
        mt Schema.mem_requiredKeys.mpr (hremoved key hkey)
      exact ⟨decode_without hfaithful hsparing hspared hj,
        Schema.fits_document hfaithful hnames hletters hj hspared⟩
  | _ => cases h

theorem decode_without_required_of_isPublishable (h : s.isPublishable = true)
    (hj : Rearranged (s.encode v) j) {key : String}
    (hkey : key ∈ Schema.requiredKeys (Schema.document s)) :
    s.decode (j.without [key]) = .error (.missingField key) ∧
      ¬Fits (Schema.document s) (Schema.document s) (j.without [key]) := by
  cases s with
  | record info fields =>
      simp only [isPublishable, Bool.and_eq_true] at h
      obtain ⟨⟨⟨hfaithful, -⟩, -⟩, -⟩ := h
      have hrequired : key ∈ fields.required := Schema.mem_requiredKeys.mp hkey
      exact ⟨decode_without_required hfaithful hrequired hj, Schema.not_fits_document hj hrequired⟩
  | _ => cases h

end Shape

section

variable (α : Type) [Shaped α]

/-- The document that publishes the schema of a type. -/
def publishedSchema : Json := Schema.document (Shaped.shape α)

/-- Values of a type are written, read and published alike, with the members of objects in any
order. -/
structure Published [Defaulting α] : Prop where
  fits : ∀ (a : α) (j : Json), Rearranged (encode a) j →
    Fits (publishedSchema α) (publishedSchema α) j
  missed : ∀ (a : α) (j : Json) (key : String), Rearranged (encode a) j →
    key ∈ Schema.requiredKeys (publishedSchema α) →
      (decode (j.without [key]) : Except Mismatch α) = .error (.missingField key) ∧
        ¬Fits (publishedSchema α) (publishedSchema α) (j.without [key])
  spared : ∀ (a : α) (j : Json) (removed : List String), Rearranged (encode a) j →
    (∀ key ∈ removed, key ∉ Schema.requiredKeys (publishedSchema α)) →
      decode (j.without removed) = .ok (Defaulting.withDefaults removed a) ∧
        Fits (publishedSchema α) (publishedSchema α) (j.without removed)

variable {α}

theorem published_of_isPublishable [Defaulting α] (h : (Shaped.shape α).isPublishable = true) :
    Published α := by
  have hspared (a : α) (j : Json) (removed : List String) (hj : Rearranged (encode a) j)
      (hremoved : ∀ key ∈ removed, key ∉ Schema.requiredKeys (publishedSchema α)) :
      decode (j.without removed) = .ok (Defaulting.withDefaults removed a) ∧
        Fits (publishedSchema α) (publishedSchema α) (j.without removed) := by
    obtain ⟨hdecode, hfits⟩ := Shape.decode_without_of_isPublishable h hj hremoved
    refine ⟨?_, hfits⟩
    rw [decode, hdecode, ← Defaulting.toValue_withDefaults]
    exact congrArg Except.ok (Shaped.ofValue_toValue _)
  refine ⟨fun a j hj => ?_, fun a j key hj hkey => ?_, hspared⟩
  · have hfits := (hspared a j [] hj fun _ hkey => absurd hkey List.not_mem_nil).2
    rwa [Json.without_nil] at hfits
  · obtain ⟨hdecode, hfits⟩ := Shape.decode_without_required_of_isPublishable h hj hkey
    refine ⟨?_, hfits⟩
    rw [decode, hdecode]
    rfl

end

/-- Conditions, sources, consumer groups and destinations are written, read and published alike. -/
theorem published_resources :
    Published Condition ∧ Published KafkaSourceStatus ∧ Published KafkaSourceSpec ∧
      Published ConsumerGroupSpec ∧ Published ConsumerGroupStatus ∧ Published Addressable ∧
      Published Destination ∧ Published KReference :=
  ⟨published_of_isPublishable (by decide +kernel), published_of_isPublishable (by decide +kernel),
    published_of_isPublishable (by decide +kernel), published_of_isPublishable (by decide +kernel),
    published_of_isPublishable (by decide +kernel), published_of_isPublishable (by decide +kernel),
    published_of_isPublishable (by decide +kernel), published_of_isPublishable (by decide +kernel)⟩

end StatusRouter
