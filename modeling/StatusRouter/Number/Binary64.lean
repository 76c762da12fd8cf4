/-!
# Binary floating-point numbers

A number with a fraction, or one too large for an integer, is held as a 64-bit binary
floating-point number, given by its bit pattern.  Everything here is exact arithmetic on naturals:
`ofRatio` rounds a quotient to the nearest number, and `shortest` finds the fewest decimal digits
that still read back as the same number.
-/

namespace StatusRouter

/-- A 64-bit binary floating-point number, given by its bit pattern. -/
structure Binary64 where
  bits : UInt64
  deriving DecidableEq

/-- A positive decimal `digits · 10 ^ exponent`. -/
structure Decimal where
  digits : Nat
  exponent : Int

namespace Binary64

/-- The weight of the lowest bit of a subnormal number, as a power of two. -/
def lowestWeight : Int := -1074

/-- The bit of the sign. -/
def signBit : Nat := 0x8000000000000000

/-- The leading bit of a significand of full length, which the bit pattern leaves out. -/
def leadingBit : Nat := 0x10000000000000

def isNegative (x : Binary64) : Bool := x.bits.toNat ≥ signBit

/-- The bit pattern without its sign. -/
def magnitude (x : Binary64) : Nat := x.bits.toNat % signBit

def isZero (x : Binary64) : Bool := x.magnitude == 0

/-- The magnitude of infinity; larger magnitudes are no numbers. -/
def infinity : Nat := 0x7FF * leadingBit

def isFinite (x : Binary64) : Bool := x.magnitude < infinity

/-- The number with the given sign and magnitude. -/
def ofMagnitude (negative : Bool) (magnitude : Nat) : Binary64 :=
  ⟨UInt64.ofNat (if negative then magnitude + signBit else magnitude)⟩

/-- A finite number is `± significand · 2 ^ weight`. -/
def significand (x : Binary64) : Nat :=
  if x.magnitude < leadingBit then x.magnitude else leadingBit + x.magnitude % leadingBit

/-- The power of two that the significand of a finite number is multiplied with. -/
def weight (x : Binary64) : Int :=
  if x.magnitude < leadingBit then lowestWeight
  else lowestWeight + (x.magnitude / leadingBit - 1 : Nat)

/-- The fraction `n · 2 ^ e` as a numerator and a denominator. -/
def scale (n : Nat) (e : Int) : Nat × Nat :=
  if 0 ≤ e then (n * Nat.pow 2 e.toNat, 1) else (n, Nat.pow 2 (-e).toNat)

/-- The nearest integer to `num / den`; a tie goes to the even one. -/
def roundDiv (num den : Nat) : Nat :=
  let q := num / den
  let r := num % den
  if 2 * r < den then q else if den < 2 * r then q + 1 else q + q % 2

/-- The weight of the lowest bit that the quotient `num / den` keeps: the one that leaves a
significand of 53 bits, or that of a subnormal number. -/
def weightOf (num den : Nat) : Int :=
  let guess : Int := num.log2 - den.log2 - 52
  let (n, d) :=
    if 0 ≤ guess then (num, den * Nat.pow 2 guess.toNat)
    else (num * Nat.pow 2 (-guess).toNat, den)
  max lowestWeight (if n < leadingBit * d then guess - 1 else guess)

/-- The number nearest to `num / den`, a tie going to the even significand; a quotient beyond the
largest number gives infinity. -/
def ofRatio (negative : Bool) (num den : Nat) : Binary64 :=
  if num = 0 then ofMagnitude negative 0
  else
    let e := weightOf num den
    let significand :=
      if 0 ≤ e then roundDiv num (den * Nat.pow 2 e.toNat)
      else roundDiv (num * Nat.pow 2 (-e).toNat) den
    ofMagnitude negative (min infinity ((e - lowestWeight).toNat * leadingBit + significand))

/-- The product of two positive finite numbers, rounded. -/
def mul (x y : Binary64) : Binary64 :=
  let (n, d) := scale x.significand x.weight
  let (n', d') := scale y.significand y.weight
  ofRatio false (n * n') (d * d')

/-- The quotient of two positive finite numbers, rounded. -/
def div (x y : Binary64) : Binary64 :=
  let (n, d) := scale x.significand x.weight
  let (n', d') := scale y.significand y.weight
  ofRatio false (n * d') (d * n')

/-- The number nearest to a natural number. -/
def ofNat (n : Nat) : Binary64 := ofRatio false n 1

/-- The number nearest to `10 ^ n`. -/
def powTen (n : Nat) : Binary64 := ofNat (Nat.pow 10 n)

/-- The negation of a number. -/
def neg (x : Binary64) : Binary64 := ofMagnitude (!x.isNegative) x.magnitude

/-- The largest exponent whose power of ten is a finite number. -/
def maxPowTen : Nat := 308

/-- Divides by `10 ^ n`, in steps of the largest power of ten that is a number. -/
def divPowTen (x : Binary64) (n : Nat) : Binary64 :=
  if n ≤ maxPowTen then x.div (powTen n)
  else if x.isZero then x
  else divPowTen (x.div (powTen maxPowTen)) (n - maxPowTen)
termination_by n
decreasing_by simp only [maxPowTen] at *; omega

/-- The number that is written `significand · 10 ^ exponent`, or nothing if it is too large.  The
significand and the power of ten are rounded on their own before they are multiplied. -/
def ofDecimal? (significand : Nat) (exponent : Int) : Option Binary64 :=
  let x := ofNat significand
  if 0 ≤ exponent then
    if exponent.toNat ≤ maxPowTen then
      let y := x.mul (powTen exponent.toNat)
      if y.isFinite then some y else none
    else if x.isZero then some x else none
  else some (x.divPowTen (-exponent).toNat)

/-- The number of decimal digits of a natural number; zero has none. -/
def digitCount (n : Nat) : Nat :=
  if n = 0 then 0 else (Nat.toDigits 10 n).length

/-- The exponent `p` with `10 ^ p ≤ num / den < 10 ^ (p + 1)`. -/
def decimalExponent (num den : Nat) : Int :=
  if den ≤ num then digitCount (num / den) - 1
  else -(digitCount ((den + num - 1) / num - 1) : Int)

/-- The numerator and the denominator of `n · 10 ^ e`. -/
def scaleTen (n : Nat) (e : Int) : Nat × Nat :=
  if 0 ≤ e then (n * Nat.pow 10 e.toNat, 1) else (n, Nat.pow 10 (-e).toNat)

/-- Whether the decimal `d · 10 ^ e` reads back as the finite number `x`: it lies between the
midpoints to its neighbours, which belong to `x` if its significand is even. -/
def readsBack (x : Binary64) (d : Nat) (e : Int) : Bool :=
  let m := x.significand
  let low := if m = leadingBit ∧ lowestWeight < x.weight then 4 * m - 1 else 4 * m - 2
  let (dn, dd) := scaleTen d e
  let below := scale low (x.weight - 2)
  let above := scale (4 * m + 2) (x.weight - 2)
  let l := below.1 * dd
  let c := dn * below.2
  let c' := dn * above.2
  let h := above.1 * dd
  if m % 2 = 0 then l ≤ c && c' ≤ h else l < c && c' < h

/-- The decimal with `n` digits that reads back as `x` and is nearest to it, if there is one.  Only
the two neighbours of `x` on the grid of that many digits can be. -/
def withDigits? (x : Binary64) (n : Nat) : Option Decimal :=
  let (num, den) := scale x.significand x.weight
  let e : Int := decimalExponent num den + 1 - n
  let (sn, sd) := scaleTen 1 e
  let d := num * sd / (den * sn)
  let rest := num * sd % (den * sn)
  match readsBack x d e, readsBack x (d + 1) e with
  | false, false => none
  | true, false => some ⟨d, e⟩
  | false, true => some ⟨d + 1, e⟩
  | true, true =>
    some (if 2 * rest < den * sn ∨ (2 * rest = den * sn ∧ d % 2 = 0) then ⟨d, e⟩ else ⟨d + 1, e⟩)

/-- The fewest decimal digits that read back as the positive finite number `x`, and of those the
nearest.  Seventeen digits always do. -/
def shortest (x : Binary64) : Decimal :=
  ((List.range 17).findSome? fun n => withDigits? x (n + 1)).getD ⟨0, 0⟩

/-- The digits without their trailing zeros, and the exponent raised to match. -/
def stripZeros (digits : List Char) : List Char :=
  (digits.reverse.dropWhile (· == '0')).reverse

/-- The text of a finite positive number.  A leading digit that stands at `10 ^ p` with `p` from
`-5` to `15` gives positional notation, which always has a point; any other has an exponent with
its sign. -/
def unsignedText (x : Binary64) : String :=
  let decimal := x.shortest
  let all := Nat.toDigits 10 decimal.digits
  let digits := stripZeros all
  let p : Int := decimal.exponent + all.length - 1
  let written :=
    if p < -5 ∨ 15 < p then
      let fraction := if digits.length ≤ 1 then [] else '.' :: digits.drop 1
      digits.take 1 ++ fraction ++ ['e', if p < 0 then '-' else '+'] ++ Nat.toDigits 10 p.natAbs
    else if p < 0 then
      ['0', '.'] ++ List.replicate (p.natAbs - 1) '0' ++ digits
    else
      let whole := p.toNat + 1
      let front := digits.take whole ++ List.replicate (whole - digits.length) '0'
      let back := digits.drop whole
      front ++ '.' :: (if back.isEmpty then ['0'] else back)
  String.ofList written

/-- The text of a finite number: the fewest digits that read back, with a sign if it is negative
(also for the negative zero). -/
def text (x : Binary64) : String :=
  let unsigned := if x.isZero then "0.0" else x.unsignedText
  if x.isNegative then "-" ++ unsigned else unsigned

end Binary64

end StatusRouter
