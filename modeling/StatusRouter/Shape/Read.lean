import StatusRouter.Json.Reader
import StatusRouter.Shape.Decode

/-!
# Reading texts in their shape

A text is read straight into the values of a shape, from front to back, so the first thing that is
wrong is reported, be it a fault of the text or a value that does not fit.  A report about a record
as a whole (a missing or repeated field, a wrong number of elements) gives the place where the
record is left.
-/

namespace StatusRouter

open Json (Cursor Mismatch TextError)

/-- Refuses the value at the cursor: a scalar at its end, a list or an object at its beginning. -/
def Json.Cursor.refuse {α : Type} (cur : Cursor) (expected : Json.Expected) :
    Except TextError α := do
  match cur.peek? with
  | some '[' => cur.mismatch (.wrongType .array expected)
  | some '\x7b' => cur.mismatch (.wrongType .object expected)
  | _ =>
    let (value, cur) ← cur.readValue 0
    cur.mismatch (Json.refuse value expected)

/-- The cursor before the next value. -/
def Json.Cursor.toValue (cur : Cursor) : Except TextError Cursor :=
  let cur := cur.skipSpace
  if cur.rest.isEmpty then cur.fault .endInValue else .ok cur

/-- A value that is decoded from a scalar alone, refused at the end of the scalar. -/
def Json.Cursor.readScalar {α : Type} (cur : Cursor) (expected : Json.Expected)
    (starts : Char → Bool) (decode : Json → Except Mismatch α) :
    Except TextError (α × Cursor) := do
  let cur ← cur.toValue
  if (cur.peek?.map starts).getD false then
    let (value, cur) ← cur.readValue 0
    match decode value with
    | .ok v => return (v, cur)
    | .error m => cur.mismatch m
  else cur.refuse expected

/-- Whether a string starts with this character. -/
def startsString (c : Char) : Bool := c == '"'

/-- Whether a number starts with this character. -/
def startsNumber (c : Char) : Bool := c == '-' || c.isDigit

/-- Whether a truth value starts with this character. -/
def startsBoolean (c : Char) : Bool := c == 't' || c == 'f'

/-- A name of a choice, after its opening quote. -/
def Choice.readName (c : Choice) (cur : Cursor) :
    Except TextError (Fin c.variants.length × Cursor) := do
  let (name, cur) ← cur.readString
  match c.ofName name with
  | .ok i => return (i, cur)
  | .error m => cur.mismatch m

/-- The only key of an object that stands for a choice. -/
def Choice.readKey (c : Choice) (cur : Cursor) :
    Except TextError (Fin c.variants.length × Cursor) :=
  let cur := cur.skipSpace
  match cur.peek? with
  | none => cur.faultAhead .endInObject
  | some '"' => c.readName cur.next
  | some '\x7d' => cur.faultAhead .noValue
  | some _ => cur.faultAhead .keyNotString

/-- A name of a choice, written as a string or as the only key of an object that holds null. -/
def Choice.read (c : Choice) (cur : Cursor) :
    Except TextError (Fin c.variants.length × Cursor) := do
  let cur ← cur.toValue
  match cur.peek? with
  | some '"' => c.readName cur.next
  | some '\x7b' => do
    let (i, cur) ← c.readKey cur.next
    let cur ← (← cur.readColon).toValue
    let cur ← if cur.peek? == some 'n' then cur.next.readLetters ['u', 'l', 'l']
      else cur.refuse .null
    let cur := cur.skipSpace
    match cur.peek? with
    | none => cur.faultAhead .endInObject
    | some brace => if brace = '\x7d' then return (i, cur.next) else cur.fault .noValue
  | _ => cur.faultAhead .noValue

/-- Adds a place to a report about a value as a whole. -/
def located {α : Type} (left : Cursor) : Except Mismatch α → Except TextError α
  | .ok v => .ok v
  | .error m => left.mismatch m

mutual

/-- The value whose text stands at the cursor, and the cursor behind it; `depth` bounds the nesting
of parts that may hold any value. -/
def Shape.read (depth : Nat) : (s : Shape) → Cursor → Except TextError (s.Value × Cursor)
  | .string, cur => cur.readScalar .string startsString Shape.string.decode
  | .boolean, cur => cur.readScalar .boolean startsBoolean Shape.boolean.decode
  | .time, cur => cur.readScalar .time startsString Instant.decode
  | .wholeTime, cur => cur.readScalar .time startsString Instant.decode
  | .any, cur => cur.readValue depth
  | .integer w, cur => cur.readScalar (.integer w.label) startsNumber w.decode
  | .choice c, cur => c.read cur
  | .list s, cur => do
    let cur ← cur.toValue
    if cur.peek? == some '[' then
      Cursor.readItems (s.read (depth - 1)) (cur.rest.length + 1) true cur.next
    else cur.refuse .array
  | .map s, cur => do
    let cur ← cur.toValue
    if cur.peek? == some '\x7b' then
      Cursor.readMembers
        (fun (m : KeyMap s.Value) key cur => do
          let (v, cur) ← s.read (depth - 1) (← cur.readColon)
          return (m.insert key v, cur))
        (cur.rest.length + 1) true .empty cur.next
    else cur.refuse .object
  | .optional s, cur => do
    let cur := cur.skipSpace
    if cur.peek? == some 'n' then return (none, ← cur.next.readLetters ['u', 'l', 'l'])
    else
      let (v, cur) ← s.read depth cur
      return (some v, cur)
  | .record info fields, cur => do
    let cur ← cur.toValue
    if cur.peek? == some '\x7b' then
      let (slots, cur) ← Cursor.readMembers (fields.readInto (depth - 1) info.form)
        (cur.rest.length + 1) true fields.noSlots cur.next
      let v ← located cur (fields.complete slots)
      return (v, cur)
    else if cur.peek? == some '[' then
      if info.form = .loose then cur.next.leaveList.mismatch (.wrongType .array info.expected)
      else do
        let (v, cur) ← fields.readItems (depth - 1) (.elementsOf info.name fields.count) 0 cur.next
        return (v, ← cur.closeList)
    else cur.refuse info.expected

/-- Reads the value of a member of an object, the cursor standing before its colon, into the slot
of the field with its key; the value of any other member is stepped over. -/
def Fields.readInto (depth : Nat) : (fields : Fields) → RecordForm → fields.Slots → String →
    Cursor → Except TextError (fields.Slots × Cursor)
  | .nil, _, slots, _, cur => do return (slots, ← (← cur.readColon).passValue)
  | .cons info s rest, form, (slot, slots), key, cur => do
    if key = info.key then
      if form = .strict && slot.isSome then cur.leaveObject.mismatch (.repeatedField key)
      else
        let cur := (← cur.readColon).skipSpace
        if info.presence = .lenient && cur.peek? == some 'n' then
          return ((s.initial?, slots), ← cur.next.readLetters ['u', 'l', 'l'])
        else
          let (v, cur) ← s.read depth cur
          return ((some v, slots), cur)
    else
      let (slots, cur) ← rest.readInto depth form slots key cur
      return ((slot, slots), cur)

/-- Reads the fields of a record from the items of a list; the cursor is left before whatever
follows the last of them. -/
def Fields.readItems (depth : Nat) : (fields : Fields) → Json.Expected → Nat → Cursor →
    Except TextError (fields.Value × Cursor)
  | .nil, _, _, cur => .ok ((), cur)
  | .cons info s rest, expected, place, cur => do
    let (v, cur) ← match ← cur.nextItem (place == 0) with
      | some cur => s.read depth cur
      | none =>
        match info.mayEndArray, s.initial? with
        | true, some v => pure (v, cur)
        | _, _ => cur.leaveList.mismatch (.wrongLength place expected)
    let (vs, cur) ← rest.readItems depth expected (place + 1) cur
    return ((v, vs), cur)

end

/-- Reads a text that holds one value of the shape. -/
def Shape.parse (s : Shape) (text : String) : Except TextError s.Value := do
  let (v, cur) ← s.read Cursor.maxDepth (Cursor.start text)
  let cur := cur.skipSpace
  if cur.rest.isEmpty then return v else cur.faultAhead .trailingCharacters

end StatusRouter
