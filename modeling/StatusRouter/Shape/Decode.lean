import StatusRouter.Shape.Basic

/-!
# Reading values in their shape

Reading looks at the members of an object in their order and reports the first value that does not
fit; only then are missing fields reported, in the order of their declaration.  Members that no
field claims are passed over.  A record may also be written as an array of its fields, unless it is
loose; the last fields may then be missing if they have an initial value.
-/

namespace StatusRouter

open Json (Mismatch refuse)

/-- The place of a name among the names of a choice. -/
def Choice.ofName (c : Choice) (name : String) : Except Mismatch (Fin c.variants.length) :=
  match c.variants.finIdxOf? name with
  | some i => .ok i
  | none => .error (.unknownName name c.variants)

/-- A name of a choice, written as a string or as the only key of an object that holds null. -/
def Choice.decode (c : Choice) : Json → Except Mismatch (Fin c.variants.length)
  | .string name => c.ofName name
  | .object [(name, content)] => do
    let i ← c.ofName name
    match content with
    | .null => return i
    | content => throw (refuse content .null)
  | .object _ => .error (.wrongValue .object .singleKey)
  | other => .error (refuse other .choice)

/-- An integer of a width. -/
def Width.decode (w : Width) : Json → Except Mismatch w.Carrier
  | .int i =>
    match w.ofInt? i with
    | some v => .ok v
    | none => .error (.wrongValue (.int i) (.integer w.label))
  | other => .error (refuse other (.integer w.label))

/-- A time. -/
def Instant.decode : Json → Except Mismatch Instant
  | .string s => (Instant.ofText s).mapError .badTime
  | other => .error (refuse other .time)

/-- What a field that was not met stands for. -/
def FieldInfo.missing {α : Type} (info : FieldInfo) (initial? : Option α) : Except Mismatch α :=
  match info.presence, initial? with
  | .required, _ => .error (.missingField info.key)
  | _, some v => .ok v
  | _, none => .error (.missingField info.key)

/-- Whether a field may be missing at the end of an array. -/
def FieldInfo.mayEndArray (info : FieldInfo) : Bool :=
  info.presence != .required && info.presence != .nullable

mutual

/-- The value that a JSON value is the form of. -/
def Shape.decode : (s : Shape) → Json → Except Mismatch s.Value
  | .string, j => match j with
    | .string v => .ok v
    | other => .error (refuse other .string)
  | .boolean, j => match j with
    | .bool v => .ok v
    | other => .error (refuse other .boolean)
  | .time, j => Instant.decode j
  | .wholeTime, j => Instant.decode j
  | .any, j => .ok j
  | .integer w, j => w.decode j
  | .choice c, j => c.decode j
  | .list s, j => match j with
    | .array items => items.mapM s.decode
    | other => .error (refuse other .array)
  | .map s, j => match j with
    | .object members => do
      let entries ← members.mapM fun member => do return (member.1, ← s.decode member.2)
      return KeyMap.ofList entries
    | other => .error (refuse other .object)
  | .optional s, j => match j with
    | .null => .ok none
    | other => some <$> s.decode other
  | .record info fields, j => match j with
    | .object members => do
      let slots ← members.foldlM
        (fun slots member => fields.put info.form slots member.1 member.2) fields.noSlots
      fields.complete slots
    | .array items =>
      if info.form = .loose then .error (refuse j info.expected)
      else do
        let (v, rest) ← fields.decodeItems (.elementsOf info.name fields.count) 0 items
        if rest.isEmpty then return v else throw (.wrongLength items.length .fewerElements)
    | other => .error (refuse other info.expected)

/-- Reads the member of an object into the slot of the field with its key. -/
def Fields.put : (fields : Fields) → RecordForm → fields.Slots → String → Json →
    Except Mismatch fields.Slots
  | .nil, _, slots, _, _ => .ok slots
  | .cons info s rest, form, (slot, slots), key, j =>
    if key = info.key then
      if form = .strict && slot.isSome then .error (.repeatedField key)
      else if info.presence = .lenient then
        match j with
        | .null => .ok (s.initial?, slots)
        | j => do return (some (← s.decode j), slots)
      else do return (some (← s.decode j), slots)
    else do return (slot, ← rest.put form slots key j)

/-- The values of the fields, after all members have been read. -/
def Fields.complete : (fields : Fields) → fields.Slots → Except Mismatch fields.Value
  | .nil, _ => .ok ()
  | .cons info s rest, (slot, slots) => do
    let v ← match slot with
      | some v => .ok v
      | none => info.missing s.initial?
    return (v, ← rest.complete slots)

/-- The values of the fields in an array, and what is left of it.  The first field that is missing
and has to be there is reported by its place. -/
def Fields.decodeItems : (fields : Fields) → Json.Expected → Nat → List Json →
    Except Mismatch (fields.Value × List Json)
  | .nil, _, _, items => .ok ((), items)
  | .cons info s rest, expected, place, items => do
    let (v, items) ← match items with
      | item :: items => do pure (← s.decode item, items)
      | [] =>
        match info.mayEndArray, s.initial? with
        | true, some v => pure (v, [])
        | _, _ => throw (.wrongLength place expected)
    let (vs, items) ← rest.decodeItems expected (place + 1) items
    return ((v, vs), items)

end

end StatusRouter
