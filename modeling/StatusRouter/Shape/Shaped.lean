import StatusRouter.Shape.Encode
import StatusRouter.Shape.Read

/-!
# Types with a shape

A type of the domain that is exchanged as JSON says in which shape, and how its values correspond
to the values of that shape.  Reading and writing follow.
-/

namespace StatusRouter

open Json (Mismatch TextError)

/-- A type whose values are written in a shape, none of them losing anything by it. -/
class Shaped (α : Type) where
  shape : Shape
  toValue : α → shape.Value
  ofValue : shape.Value → α
  ofValue_toValue (a : α) : ofValue (toValue a) = a

/-! ## Parts that are converted one by one -/

section Parts

variable {α β : Type} {f : α → β} {g : β → α}

/-- What gives back every item gives back a list of them. -/
theorem map_map_of_inverse (h : ∀ a, g (f a) = a) (items : List α) :
    (items.map f).map g = items := by
  induction items with
  | nil => rfl
  | cons a rest ih => rw [List.map_cons, List.map_cons, h, ih]

/-- What gives back every value gives back one that may be missing. -/
theorem optionMap_map_of_inverse (h : ∀ a, g (f a) = a) (value : Option α) :
    (value.map f).map g = value := by
  cases value with
  | none => rfl
  | some a => exact congrArg some (h a)

end Parts

/-! ## Reading and writing -/

variable {α : Type} [Shaped α]

/-- The JSON form of a value. -/
def encode (a : α) : Json :=
  (Shaped.shape α).encode (Shaped.toValue a)

/-- The value that a JSON value is the form of. -/
def decode (j : Json) : Except Mismatch α :=
  Shaped.ofValue <$> (Shaped.shape α).decode j

/-- The value that a text is the form of. -/
def parse (text : String) : Except TextError α :=
  Shaped.ofValue <$> (Shaped.shape α).parse text

end StatusRouter
