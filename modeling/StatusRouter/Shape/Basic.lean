import StatusRouter.Json.Mismatch

/-!
# Shapes

A `Shape` says how the values of a type are written as JSON: which fields a record has, what each
field holds, and which may be left out.  A shape is a value itself, so reading, writing and the
published schema are each defined once, by recursion on the shape, and agree for every type that
has one.

`Shape.Value s` is the type of the values that are written in the shape `s`: nested pairs for the
fields of a record, in the order of their declaration.  The types of the domain convert to and from
it.
-/

namespace StatusRouter

/-- The integer types that a field may have. -/
inductive Width where
  | int32
  | int64
  | uint16
  deriving DecidableEq

namespace Width

/-- The type of the integers of a width. -/
def Carrier : Width → Type
  | int32 => Int32
  | int64 => Int64
  | uint16 => UInt16

/-- The name by which reports call the width. -/
def label : Width → String
  | int32 => "i32"
  | int64 => "i64"
  | uint16 => "u16"

/-- The name by which schemas call the width. -/
def format : Width → String
  | int32 => "int32"
  | int64 => "int64"
  | uint16 => "uint16"

def low : Width → Int
  | int32 => -2147483648
  | int64 => -9223372036854775808
  | uint16 => 0

def high : Width → Int
  | int32 => 2147483647
  | int64 => 9223372036854775807
  | uint16 => 65535

def toInt : (w : Width) → w.Carrier → Int
  | int32, i => Int32.toInt i
  | int64, i => Int64.toInt i
  | uint16, i => (UInt16.toNat i : Int)

def ofInt : (w : Width) → Int → w.Carrier
  | int32, i => Int32.ofInt i
  | int64, i => Int64.ofInt i
  | uint16, i => UInt16.ofNat i.toNat

/-- The integer, if the width can hold it. -/
def ofInt? (w : Width) (i : Int) : Option w.Carrier :=
  if w.low ≤ i ∧ i ≤ w.high then some (w.ofInt i) else none

end Width

/-- A set of names, of which a value is one.  A field that may be missing stands for the first one; of
the types that are written so, only the severity has such a field. -/
structure Choice where
  name : String
  doc : String
  variants : List String

/-- Whether a field may be missing, and what that means. -/
inductive Presence where
  /-- The field must be there. -/
  | required
  /-- The field may be missing from an object, which then means nothing, but not from an array. -/
  | nullable
  /-- A missing field stands for the initial value, which is itself left out when written. -/
  | omitted
  /-- A missing field stands for the initial value, which is always written. -/
  | defaulted
  /-- A missing field, and a null, stand for the initial value, which is always written. -/
  | lenient
  deriving DecidableEq

/-- How a record is written. -/
inductive RecordForm where
  /-- As an object without repeated keys, or as an array of its fields. -/
  | strict
  /-- As an object; the last of several fields with one key counts. -/
  | loose
  deriving DecidableEq

/-- What is said of a record as a whole. -/
structure RecordInfo where
  name : String
  doc : String
  form : RecordForm

/-- What is said of a field, its shape apart. -/
structure FieldInfo where
  key : String
  doc : String
  presence : Presence

mutual

/-- How the values of a type are written as JSON. -/
inductive Shape where
  | string
  | boolean
  | time
  /-- A time that is written in whole seconds. -/
  | wholeTime
  /-- Any JSON value. -/
  | any
  | integer (width : Width)
  | choice (choice : Choice)
  | list (item : Shape)
  | map (value : Shape)
  | optional (value : Shape)
  | record (info : RecordInfo) (fields : Fields)

/-- The fields of a record, in the order of their declaration. -/
inductive Fields where
  | nil
  | cons (info : FieldInfo) (shape : Shape) (rest : Fields)

end

mutual

/-- The values that are written in a shape. -/
def Shape.Value : Shape → Type
  | .string => String
  | .boolean => Bool
  | .time => Instant
  | .wholeTime => Instant
  | .any => Json
  | .integer w => w.Carrier
  | .choice c => Fin c.variants.length
  | .list s => List s.Value
  | .map s => KeyMap s.Value
  | .optional s => Option s.Value
  | .record _ fields => fields.Value

/-- The values of the fields of a record. -/
def Fields.Value : Fields → Type
  | .nil => Unit
  | .cons _ s rest => s.Value × rest.Value

end

/-- The fields of a record that have been met so far. -/
def Fields.Slots : Fields → Type
  | .nil => Unit
  | .cons _ s rest => Option s.Value × rest.Slots

/-- No field met yet. -/
def Fields.noSlots : (fields : Fields) → fields.Slots
  | .nil => ()
  | .cons _ _ rest => (none, rest.noSlots)

/-- The number of fields. -/
def Fields.count : Fields → Nat
  | .nil => 0
  | .cons _ _ rest => rest.count + 1

/-- The keys of the fields, in the order of their declaration. -/
def Fields.keys : Fields → List String
  | .nil => []
  | .cons info _ rest => info.key :: rest.keys

/-- What is expected where a record stands. -/
def RecordInfo.expected (info : RecordInfo) : Json.Expected :=
  match info.form with
  | .strict => .record info.name
  | .loose => .objectOf info.name

namespace Shape

/-- The value that a missing field stands for, if the shape has one: the empty text, list or map,
zero, no value, or the first name of a choice. -/
def initial? : (s : Shape) → Option s.Value
  | .string => some ""
  | .boolean => some false
  | .time => none
  | .wholeTime => none
  | .any => some Json.null
  | .integer w => some (w.ofInt 0)
  | .choice c => if h : 0 < c.variants.length then some ⟨0, h⟩ else none
  | .list _ => some []
  | .map _ => some KeyMap.empty
  | .optional _ => some none
  | .record _ _ => none

/-- Whether a value is the one that a missing field stands for. -/
def isInitial : (s : Shape) → s.Value → Bool
  | .string, (v : String) => v.isEmpty
  | .boolean, (v : Bool) => !v
  | .time, _ => false
  | .wholeTime, _ => false
  | .any, v => match v with
    | Json.null => true
    | _ => false
  | .integer w, v => w.toInt v == 0
  | .choice _, (v : Fin _) => v.val == 0
  | .list _, (v : List _) => v.isEmpty
  | .map _, (v : KeyMap _) => v.isEmpty
  | .optional _, (v : Option _) => v.isNone
  | .record _ _, _ => false

end Shape

end StatusRouter
