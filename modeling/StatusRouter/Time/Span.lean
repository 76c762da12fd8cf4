import StatusRouter.Number.Decimal
import StatusRouter.Text.Alphanumeric

/-!
# Spans of time

A span is written as a sum of terms, each a decimal with a unit behind it, such as `1h30m`.  Signs
in front of all terms are passed over, except that a minus sign at the very beginning counts.  Each
term is a floating-point product of seconds, rounded to nanoseconds.
-/

namespace StatusRouter

/-- A span of time. -/
structure Span where
  negative : Bool
  nanoseconds : Nat
  deriving DecidableEq

/-- Why a text gives no span. -/
inductive SpanFault where
  | malformed
  | negativeTerm
  | longTerm
  | longSum
  deriving DecidableEq

/-- The text of the fault. -/
def SpanFault.message : SpanFault → String
  | malformed => "invalid duration"
  | negativeTerm => "cannot convert float seconds to Duration: value is negative"
  | longTerm => "cannot convert float seconds to Duration: value is either too big or NaN"
  | longSum => "overflow when adding durations"

namespace Span

/-- The nanoseconds in a second. -/
def perSecond : Nat := 1000000000

/-- A span has fewer seconds than this. -/
def tooManySeconds : Nat := 18446744073709551616

/-- The seconds that a unit stands for. -/
def unit? (name : List Char) : Option Binary64 :=
  let micro := [['u', 's'], [Char.ofNat 0xB5, 's'], [Char.ofNat 0x3BC, 's']]
  if name = ['n', 's'] then some (Binary64.ofRatio false 1 perSecond)
  else if micro.contains name then some (Binary64.ofRatio false 1 1000000)
  else if name = ['m', 's'] then some (Binary64.ofRatio false 1 1000)
  else if name = ['s'] then some (Binary64.ofNat 1)
  else if name = ['m'] then some (Binary64.ofNat 60)
  else if name = ['h'] then some (Binary64.ofNat 3600)
  else none

/-- The nanoseconds of a number of seconds; a half goes to the even neighbour. -/
def nanosecondsOf (seconds : Binary64) : Except SpanFault Nat :=
  let (num, den) := Binary64.scale seconds.significand seconds.weight
  if seconds.isNegative && !seconds.isZero then .error .negativeTerm
  else if !seconds.isFinite || tooManySeconds * den ≤ num then .error .longTerm
  else .ok (Binary64.roundDiv (perSecond * num) den)

/-- A number of units in seconds. -/
def secondsOf (count unit : Binary64) : Binary64 :=
  if count.isFinite then
    let product := count.mul unit
    if count.isNegative then product.neg else product
  else count

/-- Adds the terms of a text to a number of nanoseconds, at most so many. -/
def readTerms : Nat → Nat → List Char → Except SpanFault Nat
  | 0, _, _ => .error .malformed
  | bound + 1, total, s =>
    if s.isEmpty || s = ['0'] then .ok total
    else
      let count := s.takeWhile fun c => !Text.isAlphabetic c
      let rest := s.drop count.length
      let name := rest.takeWhile Text.isAlphabetic
      match SignedDecimal.ofText? count, unit? name with
      | some count, some unit => do
        let total := total + (← nanosecondsOf (secondsOf count.toBinary64 unit))
        if tooManySeconds * perSecond ≤ total then throw .longSum
        else readTerms bound total (rest.drop name.length)
      | _, _ => .error .malformed

/-- The span that a text gives. -/
def ofText (text : String) : Except SpanFault Span := do
  let s := text.toList
  let terms := (s.dropWhile (· = '+')).dropWhile (· = '-')
  return ⟨s.head? = some '-', ← readTerms (s.length + 1) 0 terms⟩

end Span

end StatusRouter
