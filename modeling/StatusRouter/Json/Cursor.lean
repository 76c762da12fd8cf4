import StatusRouter.Json.Mismatch

/-!
# Places in a JSON text

A `Cursor` is the rest of a text together with the place where it begins.  Places count lines from
one and, within a line, the bytes of the UTF-8 form before the place.  A text that is not JSON has
a `Fault` at a place; a text that is JSON but not what was asked for has a `Mismatch` at a place.
-/

namespace StatusRouter.Json

/-- A place in a text. -/
structure Position where
  line : Nat
  column : Nat
  deriving DecidableEq

/-- What keeps a text from being JSON. -/
inductive Fault where
  | endInList
  | endInObject
  | endInString
  | endInValue
  | noColon
  | noListCommaOrEnd
  | noObjectCommaOrEnd
  | badWord
  | noValue
  | badEscape
  | badNumber
  | hugeNumber
  | controlCharacter
  | keyNotString
  | loneSurrogate
  | cutSurrogate
  | trailingComma
  | trailingCharacters
  | tooDeep
  deriving DecidableEq

/-- The text of a fault. -/
def Fault.message : Fault → String
  | endInList => "EOF while parsing a list"
  | endInObject => "EOF while parsing an object"
  | endInString => "EOF while parsing a string"
  | endInValue => "EOF while parsing a value"
  | noColon => "expected `:`"
  | noListCommaOrEnd => "expected `,` or `]`"
  | noObjectCommaOrEnd => "expected `,` or `\x7d`"
  | badWord => "expected ident"
  | noValue => "expected value"
  | badEscape => "invalid escape"
  | badNumber => "invalid number"
  | hugeNumber => "number out of range"
  | controlCharacter => "control character (\\u0000-\\u001F) found while parsing a string"
  | keyNotString => "key must be a string"
  | loneSurrogate => "lone leading surrogate in hex escape"
  | cutSurrogate => "unexpected end of hex escape"
  | trailingComma => "trailing comma"
  | trailingCharacters => "trailing characters"
  | tooDeep => "recursion limit exceeded"

/-- Why a text was refused. -/
inductive Cause where
  | fault (fault : Fault)
  | mismatch (mismatch : Mismatch)

/-- Why a text was refused, and where. -/
structure TextError where
  cause : Cause
  position : Position

/-- The text of a refusal, with its place. -/
def TextError.message (e : TextError) : String :=
  let cause := match e.cause with
    | .fault f => f.message
    | .mismatch m => m.message
  cause ++ " at line " ++ toString e.position.line ++ " column " ++ toString e.position.column

/-- The rest of a text and the place where it begins. -/
structure Cursor where
  rest : List Char
  position : Position

namespace Position

/-- The start of a text. -/
def start : Position := ⟨1, 0⟩

/-- The place after a character. -/
def after (p : Position) (c : Char) : Position :=
  if c = '\n' then ⟨p.line + 1, 0⟩ else ⟨p.line, p.column + c.utf8Size⟩

/-- The place so many bytes into a text that begins here. -/
def advance (p : Position) : List Char → Nat → Position
  | [], _ => p
  | c :: cs, n =>
    if n < c.utf8Size then ⟨p.line, p.column + n⟩ else (p.after c).advance cs (n - c.utf8Size)

end Position

namespace Cursor

def start (s : String) : Cursor := ⟨s.toList, .start⟩

def peek? (cur : Cursor) : Option Char := cur.rest.head?

/-- The cursor after the next character. -/
def next (cur : Cursor) : Cursor :=
  match cur.rest with
  | [] => cur
  | c :: rest => ⟨rest, cur.position.after c⟩

/-- The cursor after so many characters. -/
def skip (cur : Cursor) : Nat → Cursor
  | 0 => cur
  | n + 1 => cur.next.skip n

/-- The cursor after all characters of a class. -/
def skipWhile (p : Char → Bool) (cur : Cursor) : Cursor :=
  cur.skip (cur.rest.takeWhile p).length

/-- Whether a character may stand between the tokens of a text. -/
def isSpace (c : Char) : Bool := c == ' ' || c == '\n' || c == '\t' || c == '\r'

def skipSpace (cur : Cursor) : Cursor := cur.skipWhile isSpace

/-- The place so many bytes ahead. -/
def ahead (cur : Cursor) (bytes : Nat) : Position := cur.position.advance cur.rest bytes

/-- The end of the text. -/
def toEnd (cur : Cursor) : Cursor := cur.skip cur.rest.length

/-- A fault at the place of the cursor. -/
def fault {α : Type} (cur : Cursor) (f : Fault) : Except TextError α :=
  .error ⟨.fault f, cur.position⟩

/-- A fault in the next byte: its place is counted after that byte. -/
def faultAhead {α : Type} (cur : Cursor) (f : Fault) : Except TextError α :=
  .error ⟨.fault f, cur.ahead 1⟩

/-- A mismatch at the place of the cursor. -/
def mismatch {α : Type} (cur : Cursor) (m : Mismatch) : Except TextError α :=
  .error ⟨.mismatch m, cur.position⟩

end Cursor

end StatusRouter.Json
