import StatusRouter.Text.Blank
import StatusRouter.Time.Instant

/-!
# Times as text

Times are exchanged as RFC 3339 texts.  They are written in UTC with a `Z`, and with 0, 3, 6 or 9
digits after the point of the second, the fewest that are exact; a year outside 0 to 9999 has a
sign.

Reading is more liberal than the standard: blanks may stand before each number and before each
mark, a number may have fewer digits than its place, a year may have a sign and then any number of
digits, date and time may be parted by a blank or a small `t`, the offset may be the word `UTC`, a
small `z`, or two digits of hours and two of minutes with any colons and blanks between them.  The
first thing that is wrong decides the error.
-/

namespace StatusRouter

/-- What is wrong with the text of a time. -/
inductive TimeFault where
  | tooShort
  | unexpected
  | outOfRange
  | tooLong
  /-- The local time exists, but not in UTC. -/
  | noSuchTime
  deriving DecidableEq

/-- The text of the fault. -/
def TimeFault.message : TimeFault → String
  | tooShort => "premature end of input"
  | unexpected => "input contains invalid characters"
  | outOfRange => "input is out of range"
  | tooLong => "trailing input"
  | noSuchTime => "no possible date and time matching input"

namespace Instant

/-! ## Writing -/

/-- A number with at least so many digits. -/
def padded (width n : Nat) : List Char :=
  let digits := Nat.toDigits 10 n
  List.replicate (width - digits.length) '0' ++ digits

/-- A year: four digits, with a sign if it is outside 0 to 9999. -/
def yearChars (year : Int) : List Char :=
  if 0 ≤ year ∧ year ≤ 9999 then padded 4 year.toNat
  else (if year < 0 then '-' else '+') :: padded 4 year.natAbs

/-- The digits after the point of the second: none, three, six or nine. -/
def fractionChars (nanosecond : Nat) : List Char :=
  if nanosecond = 0 then []
  else if nanosecond % 1000000 = 0 then '.' :: padded 3 (nanosecond / 1000000)
  else if nanosecond % 1000 = 0 then '.' :: padded 6 (nanosecond / 1000)
  else '.' :: padded 9 nanosecond

/-- The text of a time, as a list of characters. -/
def chars (t : Instant) : List Char :=
  yearChars t.date.year ++ '-' :: padded 2 t.date.month ++ '-' :: padded 2 t.date.day ++
    'T' :: padded 2 (t.minute / 60) ++ ':' :: padded 2 (t.minute % 60) ++
    ':' :: padded 2 t.second ++ fractionChars t.nanosecond ++ ['Z']

/-- The text of a time. -/
def text (t : Instant) : String := String.ofList t.chars

/-! ## Reading -/

/-- The value of decimal digits. -/
def digitsValue (digits : List Char) : Nat :=
  digits.foldl (fun n c => 10 * n + (c.toNat - 48)) 0

/-- The largest number that a place may hold before its own bounds are looked at. -/
def largestNumber : Nat := 9223372036854775807

/-- A number in front of a text: at least one digit, all that follow if `width` is none, else at
most so many. -/
def readNumber (width : Option Nat) (s : List Char) : Except TimeFault (Nat × List Char) :=
  let run := s.takeWhile Char.isDigit
  let digits := match width with
    | none => run
    | some w => run.take w
  match s with
  | [] => .error .tooShort
  | _ =>
    if digits.isEmpty then .error .unexpected
    else if largestNumber < digitsValue digits then .error .outOfRange
    else .ok (digitsValue digits, s.drop digits.length)

/-- A number of at most two digits, blanks before it, between two bounds. -/
def readPlace (low high : Nat) (s : List Char) : Except TimeFault (Nat × List Char) := do
  let (n, rest) ← readNumber (some 2) (Text.skipBlanks s)
  if low ≤ n ∧ n ≤ high then return (n, rest) else throw .outOfRange

/-- A mark, blanks before it. -/
def readMark (mark : Char) (s : List Char) : Except TimeFault (List Char) :=
  match Text.skipBlanks s with
  | [] => .error .tooShort
  | c :: rest => if c = mark then .ok rest else .error .unexpected

/-- The bounds of the numbers that are taken for years at first. -/
def fitsYear (year : Int) : Bool := -2147483648 ≤ year && year ≤ 2147483647

/-- A year: four digits at most, or a sign and any number of digits. -/
def readYear (s : List Char) : Except TimeFault (Int × List Char) := do
  let (year, rest) ← match Text.skipBlanks s with
    | '-' :: digits => do
      let (n, rest) ← readNumber none digits
      pure (-(n : Int), rest)
    | '+' :: digits => do
      let (n, rest) ← readNumber none digits
      pure ((n : Int), rest)
    | digits => do
      let (n, rest) ← readNumber (some 4) digits
      pure ((n : Int), rest)
  if fitsYear year then return (year, rest) else throw .outOfRange

/-- What parts the date from the time. -/
def readSeparator : List Char → Except TimeFault (List Char)
  | [] => .error .tooShort
  | c :: rest => if c = 't' ∨ c = 'T' ∨ c = ' ' then .ok rest else .error .unexpected

/-- The fraction of the second in nanoseconds, zero if there is no point; digits after the ninth
are dropped. -/
def readFraction : List Char → Except TimeFault (Nat × List Char)
  | '.' :: s => do
    let (n, rest) ← readNumber (some 9) s
    let count := s.length - rest.length
    return (n * Nat.pow 10 (9 - count), rest.dropWhile Char.isDigit)
  | s => .ok (0, s)

/-- Two characters that are digits, as a number.  A text of less than two bytes is too short. -/
def readTwoDigits : List Char → Except TimeFault (Nat × List Char)
  | [] => .error .tooShort
  | [c] => .error (if c.utf8Size < 2 then .tooShort else .unexpected)
  | a :: b :: rest =>
    if a.isDigit && b.isDigit then .ok (digitsValue [a, b], rest) else .error .unexpected

/-- Hours and minutes of an offset, with any colons and blanks between them, in minutes. -/
def readOffsetAmount (s : List Char) : Except TimeFault (Nat × List Char) := do
  let (hours, rest) ← readTwoDigits s
  let (minutes, rest) ← readTwoDigits (rest.dropWhile fun c => c = ':' || Text.isBlank c)
  if minutes < 60 then return (60 * hours + minutes, rest) else throw .outOfRange

/-- The word for the offset zero. -/
def isZeroWord (s : List Char) : Bool :=
  (s.take 3).map Char.toUpper == ['U', 'T', 'C']

/-- The offset from UTC in minutes, blanks before it. -/
def readOffset (s : List Char) : Except TimeFault (Int × List Char) := do
  let s := Text.skipBlanks s
  if isZeroWord s then return (0, s.drop 3)
  match s with
  | [] => throw .tooShort
  | c :: rest =>
    if c = 'z' ∨ c = 'Z' then return (0, rest)
    else if c = '+' then
      let (n, rest) ← readOffsetAmount rest
      return ((n : Int), rest)
    else if c = '-' ∨ c = Char.ofNat 0x2212 then
      let (n, rest) ← readOffsetAmount rest
      return (-(n : Int), rest)
    else throw .unexpected

/-- Reads a time.  Each number is held against the bounds of its place when it is read; whether the
calendar has the day, and the day of the time in UTC, is asked last. -/
def ofChars (s : List Char) : Except TimeFault Instant := do
  let (year, s) ← readYear s
  let s ← readMark '-' s
  let (month, s) ← readPlace 1 12 s
  let s ← readMark '-' s
  let (day, s) ← readPlace 1 31 s
  let s ← readSeparator s
  let (hour, s) ← readPlace 0 23 s
  let s ← readMark ':' s
  let (minute, s) ← readPlace 0 59 s
  let s ← readMark ':' s
  let (second, s) ← readPlace 0 60 s
  let (nanosecond, s) ← readFraction s
  let (offset, s) ← readOffset s
  if !(Text.skipBlanks s).isEmpty then throw .tooLong
  match Date.ofNumbers? year month day with
  | none => throw .outOfRange
  | some date =>
    if 1440 ≤ offset.natAbs then throw .outOfRange
    match ofLocal? date (60 * hour + minute) second nanosecond offset with
    | none => throw .noSuchTime
    | some t => return t

/-- Reads a time. -/
def ofText (s : String) : Except TimeFault Instant := ofChars s.toList

end Instant

end StatusRouter
