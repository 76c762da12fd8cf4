import StatusRouter.Number.Binary64

/-!
# Decimal texts

A number is written with an optional sign, decimal digits with an optional point among them or at
either end of them, and an optional exponent.  `SignedDecimal.ofText?` reads it without loss, and
`SignedDecimal.toBinary64` rounds what was read.
-/

namespace StatusRouter

/-- The decimal `± digits · 10 ^ exponent`. -/
structure SignedDecimal where
  negative : Bool
  digits : Nat
  exponent : Int
  deriving DecidableEq

namespace SignedDecimal

/-- The number that decimal digits stand for. -/
def natOf (digits : List Char) : Nat :=
  digits.foldl (fun n c => 10 * n + (c.toNat - 48)) 0

/-- Whether a text begins with a minus sign, and what stands behind its sign. -/
def splitSign : List Char → Bool × List Char
  | '+' :: rest => (false, rest)
  | '-' :: rest => (true, rest)
  | rest => (false, rest)

/-- The exponent at the end of a number, which may be left out. -/
def exponent? : List Char → Option Int
  | [] => some 0
  | mark :: rest =>
    let (negative, digits) := splitSign rest
    if (mark = 'e' ∨ mark = 'E') ∧ !digits.isEmpty ∧ digits.all Char.isDigit then
      some (if negative then -natOf digits else natOf digits)
    else none

/-- The decimal that a text gives. -/
def ofText? (s : List Char) : Option SignedDecimal := do
  let (negative, s) := splitSign s
  let whole := s.takeWhile Char.isDigit
  let s := s.drop whole.length
  let fraction := match s with
    | '.' :: rest => rest.takeWhile Char.isDigit
    | _ => []
  let s := match s with
    | '.' :: rest => rest.drop fraction.length
    | s => s
  let shift ← exponent? s
  if whole.isEmpty && fraction.isEmpty then none
  else some ⟨negative, natOf (whole ++ fraction), shift - fraction.length⟩

/-- The words for what is no finite number. -/
def words : List String := ["inf", "infinity", "nan"]

/-- Whether a text stands for a floating-point number, finite or not. -/
def isNumberText (s : List Char) : Bool :=
  (ofText? s).isSome || words.contains (String.ofList ((splitSign s).2.map Char.toLower))

/-- The nearest floating-point number. -/
def toBinary64 (d : SignedDecimal) : Binary64 :=
  let (num, den) := Binary64.scaleTen d.digits d.exponent
  Binary64.ofRatio d.negative num den

end SignedDecimal

end StatusRouter
