import StatusRouter.Json.Basic
import StatusRouter.Text.Quoted
import StatusRouter.Time.Rfc3339

/-!
# Values that are not what was asked for

A reader that asks for a value of some form and finds another one reports a `Mismatch`: what it
found, what it expected, and which rule was broken.  `Mismatch.message` is the only place that
turns one into text.
-/

namespace StatusRouter.Json

/-- What was found, as far as a report shows it. -/
inductive Found where
  | null
  | bool (value : Bool)
  | int (value : Int)
  | float (value : Binary64)
  | string (text : String)
  | array
  | object

/-- What a report shows of a value. -/
def found : Json → Found
  | .null => .null
  | .bool b => .bool b
  | .int i => .int i
  | .float x => .float x
  | .string s => .string s
  | .array _ => .array
  | .object _ => .object

/-- The text of what was found. -/
def Found.text : Found → String
  | .null => "null"
  | .bool b => "boolean `" ++ (if b then "true" else "false") ++ "`"
  | .int i => "integer `" ++ toString i ++ "`"
  | .float x => "floating point `" ++ x.text ++ "`"
  | .string s => "string " ++ Text.quoted s
  | .array => "sequence"
  | .object => "map"

/-- What was expected. -/
inductive Expected where
  | string
  | boolean
  | array
  | object
  | null
  | time
  /-- An integer type, by its label. -/
  | integer (label : String)
  /-- A record that may be written as an object or as an array of its fields. -/
  | record (name : String)
  /-- A record that may be written as an object only. -/
  | objectOf (name : String)
  /-- The fields of a record in an array. -/
  | elementsOf (name : String) (count : Nat)
  | fewerElements
  /-- One of a set of names, written as a string or as the key of an object. -/
  | choice
  | singleKey
  | pair

/-- The text of what was expected. -/
def Expected.text : Expected → String
  | string => "a string"
  | boolean => "a boolean"
  | array => "a sequence"
  | object => "a map"
  | null => "unit"
  | time => "an RFC 3339 formatted date and time string"
  | integer label => label
  | record name => "struct " ++ name
  | objectOf name => name
  | elementsOf name count =>
    "struct " ++ name ++ " with " ++ toString count ++ (if count = 1 then " element" else " elements")
  | fewerElements => "fewer elements in array"
  | choice => "string or map"
  | singleKey => "map with a single key"
  | pair => "a tuple of size 2"

/-- Why a value was refused. -/
inductive Mismatch where
  | wrongType (found : Found) (expected : Expected)
  | wrongValue (found : Found) (expected : Expected)
  | wrongLength (length : Nat) (expected : Expected)
  | unknownName (name : String) (known : List String)
  | missingField (key : String)
  | repeatedField (key : String)
  | badTime (fault : TimeFault)

/-- A text between backticks. -/
def ticked (s : String) : String := "`" ++ s ++ "`"

/-- The names that would have been known, as a list in words. -/
def knownNames : List String → String
  | [] => "there are no variants"
  | [a] => "expected " ++ ticked a
  | [a, b] => "expected " ++ ticked a ++ " or " ++ ticked b
  | names => "expected one of " ++ ", ".intercalate (names.map ticked)

/-- The text of a refusal. -/
def Mismatch.message : Mismatch → String
  | wrongType found expected => "invalid type: " ++ found.text ++ ", expected " ++ expected.text
  | wrongValue found expected => "invalid value: " ++ found.text ++ ", expected " ++ expected.text
  | wrongLength length expected =>
    "invalid length " ++ toString length ++ ", expected " ++ expected.text
  | unknownName name known => "unknown variant " ++ ticked name ++ ", " ++ knownNames known
  | missingField key => "missing field " ++ ticked key
  | repeatedField key => "duplicate field " ++ ticked key
  | badTime fault => fault.message

/-- The refusal of a value of the wrong type. -/
def refuse (value : Json) (expected : Expected) : Mismatch :=
  .wrongType value.found expected

/-- A text. -/
def text : Json → Except Mismatch String
  | .string s => .ok s
  | other => .error (refuse other .string)

/-- An array of exactly two texts. -/
def textPair : Json → Except Mismatch (String × String)
  | .array items => do
    match items with
    | [] => throw (.wrongLength 0 .pair)
    | [a] =>
      let _ ← text a
      throw (.wrongLength 1 .pair)
    | a :: b :: rest =>
      let pair := (← text a, ← text b)
      if rest.isEmpty then return pair else throw (.wrongLength items.length .fewerElements)
  | other => .error (refuse other .pair)

end StatusRouter.Json
