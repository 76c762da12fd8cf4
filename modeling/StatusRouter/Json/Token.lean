import StatusRouter.Json.Cursor
import StatusRouter.Text.Hexadecimal

/-!
# Words, numbers and strings in a JSON text

The readers here take one scalar from a cursor.  Each reports the first fault that it meets, at the
place where the text stops making sense.  The readers whose names begin with `pass` step over a
value that nobody asked for; they look at its form only, so a number of any size and any escape of
four hexadecimal digits will do.
-/

namespace StatusRouter.Json.Cursor

/-! ## Words -/

/-- Takes the letters of a word, one by one. -/
def readLetters (cur : Cursor) : List Char → Except TextError Cursor
  | [] => .ok cur
  | expected :: word =>
    match cur.peek? with
    | none => cur.fault .endInValue
    | some c => if c = expected then cur.next.readLetters word else cur.faultAhead .badWord

/-! ## Numbers -/

/-- The largest integer a number may be; larger ones become floating-point numbers. -/
def largestInteger : Nat := 18446744073709551615

/-- The largest absolute value of a negative integer. -/
def largestNegative : Nat := 9223372036854775808

/-- The largest exponent that is looked at. -/
def largestExponent : Nat := 2147483647

/-- Appends digits to a number as long as it stays within a limit; also the count of the digits
appended. -/
def absorb (limit n : Nat) : List Char → Nat × Nat
  | [] => (n, 0)
  | c :: digits =>
    let m := 10 * n + (c.toNat - 48)
    if limit < m then (n, 0)
    else
      let (value, count) := absorb limit m digits
      (value, count + 1)

/-- A floating-point number from its decimal parts, refused at the cursor if it is too large. -/
def scaled (cur : Cursor) (negative : Bool) (significand : Nat) (exponent : Int) :
    Except TextError (Json × Cursor) :=
  match Binary64.ofDecimal? significand exponent with
  | some x => .ok (.float (if negative then x.neg else x), cur)
  | none => cur.fault .hugeNumber

/-- The exponent of a number, after its mark. -/
def readExponent (cur : Cursor) (negative : Bool) (significand : Nat) (start : Int) :
    Except TextError (Json × Cursor) :=
  let down := cur.peek? == some '-'
  let cur := if cur.peek? == some '+' || down then cur.next else cur
  match cur.peek? with
  | none => cur.fault .endInValue
  | some c =>
    if !c.isDigit then cur.faultAhead .badNumber
    else
      let digits := cur.rest.takeWhile Char.isDigit
      let (value, count) := absorb largestExponent 0 digits
      let after := cur.skip digits.length
      if count < digits.length then
        if significand ≠ 0 && !down then (cur.skip (count + 1)).fault .hugeNumber
        else .ok (.float (Binary64.ofMagnitude negative 0), after)
      else after.scaled negative significand (if down then start - value else start + value)

/-- What may follow the digits before or after the point. -/
def readScale (cur : Cursor) (negative : Bool) (significand : Nat) (exponent : Int) :
    Except TextError (Json × Cursor) :=
  if cur.peek? == some 'e' || cur.peek? == some 'E' then
    cur.next.readExponent negative significand exponent
  else cur.scaled negative significand exponent

/-- The digits after the point. -/
def readFraction (cur : Cursor) (negative : Bool) (significand : Nat) (exponent : Int) :
    Except TextError (Json × Cursor) :=
  let digits := cur.rest.takeWhile Char.isDigit
  let after := cur.skip digits.length
  if digits.isEmpty then
    if cur.rest.isEmpty then cur.fault .endInValue else cur.faultAhead .badNumber
  else
    let (value, count) := absorb largestInteger significand digits
    after.readScale negative value (exponent - count)

/-- An integer that has no fraction and no exponent.  The negative zero, and a negative number
that a 64-bit integer cannot hold, are floating-point numbers. -/
def integerValue (negative : Bool) (n : Nat) : Json :=
  if negative then
    if n = 0 ∨ largestNegative < n then .float (Binary64.ofNat n).neg else .int (-n)
  else .int n

/-- A number, after its sign.  Digits that a 64-bit integer cannot hold only count as places. -/
def readUnsigned (cur : Cursor) (negative : Bool) : Except TextError (Json × Cursor) :=
  match cur.rest with
  | [] => cur.fault .endInValue
  | c :: rest =>
    if !c.isDigit then cur.faultAhead .badNumber
    else if c = '0' && (rest.head?.map Char.isDigit).getD false then
      cur.next.faultAhead .badNumber
    else
      let digits := cur.rest.takeWhile Char.isDigit
      let after := cur.skip digits.length
      let (value, count) := absorb largestInteger 0 digits
      let dropped : Int := (digits.length - count : Nat)
      match after.peek? with
      | some '.' => after.next.readFraction negative value dropped
      | some 'e' | some 'E' => after.next.readExponent negative value dropped
      | _ =>
        if count < digits.length then after.scaled negative value dropped
        else .ok (integerValue negative value, after)

/-- A number. -/
def readNumber (cur : Cursor) : Except TextError (Json × Cursor) :=
  if cur.peek? == some '-' then cur.next.readUnsigned true else cur.readUnsigned false

/-! ## Strings -/

/-- Four hexadecimal digits. -/
def readHex (cur : Cursor) : Except TextError (Nat × Cursor) :=
  if (cur.rest.take 4).foldl (fun size c => size + c.utf8Size) 0 < 4 then cur.toEnd.fault .endInString
  else
    match (cur.rest.take 4).mapM Text.hexValue? with
    | some [a, b, c, d] => .ok (((a * 16 + b) * 16 + c) * 16 + d, cur.skip 4)
    | _ => .error ⟨.fault .badEscape, cur.ahead 4⟩

/-- One character that has to follow the first half of a surrogate pair. -/
def readPairMark (cur : Cursor) (mark : Char) : Except TextError Cursor :=
  match cur.peek? with
  | none => cur.fault .endInString
  | some c => if c = mark then .ok cur.next else cur.faultAhead .cutSurrogate

/-- A character by its number, after the mark of the escape.  A character beyond the first plane
is written as a pair of numbers, and neither stands alone. -/
def readCodePoint (cur : Cursor) : Except TextError (Char × Cursor) := do
  let (high, cur) ← cur.readHex
  if 0xDC00 ≤ high ∧ high ≤ 0xDFFF then cur.fault .loneSurrogate
  else if 0xD800 ≤ high ∧ high ≤ 0xDBFF then
    let cur ← cur.readPairMark '\\'
    let cur ← cur.readPairMark 'u'
    let (low, cur) ← cur.readHex
    if 0xDC00 ≤ low ∧ low ≤ 0xDFFF then
      return (Char.ofNat ((high - 0xD800) * 0x400 + (low - 0xDC00) + 0x10000), cur)
    else cur.fault .loneSurrogate
  else return (Char.ofNat high, cur)

/-- The character that a one-letter escape stands for. -/
def shortEscape? : Char → Option Char
  | '"' => some '"'
  | '\\' => some '\\'
  | '/' => some '/'
  | 'b' => some (Char.ofNat 8)
  | 'f' => some (Char.ofNat 12)
  | 'n' => some '\n'
  | 'r' => some '\r'
  | 't' => some '\t'
  | _ => none

/-- An escape, after its backslash. -/
def readEscape (cur : Cursor) : Except TextError (Char × Cursor) :=
  match cur.peek? with
  | none => cur.fault .endInString
  | some 'u' => cur.next.readCodePoint
  | some c =>
    match shortEscape? c with
    | some character => .ok (character, cur.next)
    | none => cur.faultAhead .badEscape

/-- The characters of a string up to its closing quote, at most so many. -/
def readCharacters : Nat → Cursor → List Char → Except TextError (String × Cursor)
  | 0, cur, _ => cur.fault .endInString
  | bound + 1, cur, read =>
    match cur.peek? with
    | none => cur.fault .endInString
    | some '"' => .ok (String.ofList read.reverse, cur.next)
    | some '\\' => do
      let (c, cur) ← cur.next.readEscape
      readCharacters bound cur (c :: read)
    | some c =>
      if c.toNat < 0x20 then cur.faultAhead .controlCharacter
      else readCharacters bound cur.next (c :: read)

/-- A string, after its opening quote. -/
def readString (cur : Cursor) : Except TextError (String × Cursor) :=
  readCharacters (cur.rest.length + 1) cur []

/-! ## Stepping over scalars -/

/-- Steps over an escape, after its backslash. -/
def passEscape (cur : Cursor) : Except TextError Cursor :=
  match cur.peek? with
  | none => cur.fault .endInString
  | some 'u' => do
    let (_, cur) ← cur.next.readHex
    return cur
  | some c => if (shortEscape? c).isSome then .ok cur.next else cur.faultAhead .badEscape

/-- Steps over the characters of a string and its closing quote. -/
def passCharacters : Nat → Cursor → Except TextError Cursor
  | 0, cur => cur.fault .endInString
  | bound + 1, cur =>
    match cur.peek? with
    | none => cur.fault .endInString
    | some '"' => .ok cur.next
    | some '\\' => do
      let cur ← cur.next.passEscape
      passCharacters bound cur
    | some c =>
      if c.toNat < 0x20 then cur.fault .controlCharacter else passCharacters bound cur.next

/-- Steps over a string, after its opening quote. -/
def passString (cur : Cursor) : Except TextError Cursor :=
  passCharacters (cur.rest.length + 1) cur

/-- Steps over the digits of an exponent, after its mark. -/
def passExponent (cur : Cursor) : Except TextError Cursor :=
  let cur := if cur.peek? == some '+' || cur.peek? == some '-' then cur.next else cur
  match cur.peek? with
  | none => cur.fault .badNumber
  | some c =>
    if c.isDigit then .ok (cur.skipWhile Char.isDigit) else cur.faultAhead .badNumber

/-- Steps over an exponent, if there is one. -/
def passScale (cur : Cursor) : Except TextError Cursor :=
  if cur.peek? == some 'e' || cur.peek? == some 'E' then cur.next.passExponent else .ok cur

/-- Steps over a number. -/
def passNumber (cur : Cursor) : Except TextError Cursor :=
  let cur := if cur.peek? == some '-' then cur.next else cur
  match cur.rest with
  | [] => cur.fault .badNumber
  | c :: rest =>
    if !c.isDigit then cur.faultAhead .badNumber
    else if c = '0' && (rest.head?.map Char.isDigit).getD false then
      cur.next.faultAhead .badNumber
    else
      let after := cur.skipWhile Char.isDigit
      if after.peek? == some '.' then
        let point := after.next
        if (point.rest.takeWhile Char.isDigit).isEmpty then point.faultAhead .badNumber
        else (point.skipWhile Char.isDigit).passScale
      else after.passScale

end StatusRouter.Json.Cursor
