import StatusRouter.Proofs.Shape.Faithful
import StatusRouter.Resource.ConsumerGroup

/-!
# Writing loses nothing

Values of a type with a faithful shape are read back as they were.  So a JSON value that is read as
one of the type may be read and written any number of times: after the first time it stays as it is.
-/

namespace StatusRouter

open Json (Mismatch Rearranged)

section

variable (α : Type) [Shaped α]

/-- Reads a value and writes it again. -/
def rewrite (j : Json) : Except Mismatch Json :=
  encode <$> (decode j : Except Mismatch α)

/-- Nothing is lost when values are written and read back. -/
structure Lossless : Prop where
  decode_encode : ∀ (a : α) (j : Json), Rearranged (encode a) j → decode j = .ok a
  decode_again : ∀ (j : Json) (a : α), decode j = .ok a → decode (encode a) = .ok a
  rewrite_again : ∀ j : Json, (rewrite α j >>= rewrite α) = rewrite α j

variable {α}

theorem lossless_of_isFaithful (h : (Shaped.shape α).isFaithful = true) : Lossless α := by
  have hdecode (a : α) (j : Json) (hj : Rearranged (encode a) j) : decode j = .ok a := by
    have hvalue : (Shaped.shape α).decode j = .ok (Shaped.toValue a) :=
      Shape.decode_of_rearranged _ h _ hj
    rw [decode, hvalue]
    exact congrArg Except.ok (Shaped.ofValue_toValue a)
  have hsame (a : α) : decode (encode a) = .ok a := hdecode a _ (.same _)
  refine ⟨hdecode, fun _ a _ => hsame a, fun j => ?_⟩
  · unfold rewrite
    cases hj : (decode j : Except Mismatch α) with
    | error fault => rfl
    | ok a => exact congrArg (encode <$> ·) (hsame a)

end

/-- Conditions, sources, consumer groups and destinations are written without loss. -/
theorem lossless_resources :
    Lossless Condition ∧ Lossless KafkaSourceStatus ∧ Lossless KafkaSourceSpec ∧
      Lossless ConsumerGroupSpec ∧ Lossless ConsumerGroupStatus ∧ Lossless Addressable ∧
      Lossless Destination ∧ Lossless KReference :=
  ⟨lossless_of_isFaithful (by decide), lossless_of_isFaithful (by decide),
    lossless_of_isFaithful (by decide), lossless_of_isFaithful (by decide),
    lossless_of_isFaithful (by decide), lossless_of_isFaithful (by decide),
    lossless_of_isFaithful (by decide), lossless_of_isFaithful (by decide)⟩

end StatusRouter
