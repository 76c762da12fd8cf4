import StatusRouter.Shape.Basic

/-!
# Writing values in their shape

A record is written as an object with its fields in the order of their declaration, without those
that are left out when they have their initial value.
-/

namespace StatusRouter

/-- Whether a field with this value is left out. -/
def FieldInfo.leavesOut (info : FieldInfo) (isInitial : Bool) : Bool :=
  (info.presence == .omitted || info.presence == .nullable) && isInitial

mutual

/-- The JSON form of a value. -/
def Shape.encode : (s : Shape) → s.Value → Json
  | .string, v => .string v
  | .boolean, v => .bool v
  | .time, (t : Instant) => .string t.text
  | .wholeTime, (t : Instant) => .string t.wholeSecond.text
  | .any, v => v
  | .integer w, i => .int (w.toInt i)
  | .choice c, (i : Fin c.variants.length) => .string c.variants[i]
  | .list s, (items : List s.Value) => .array (items.map s.encode)
  | .map s, (m : KeyMap s.Value) => .object (m.entries.map fun entry => (entry.1, s.encode entry.2))
  | .optional s, v => match v with
    | none => .null
    | some v => s.encode v
  | .record _ fields, v => .object (fields.encode v)

/-- The members that the fields of a record are written as. -/
def Fields.encode : (fields : Fields) → fields.Value → List (String × Json)
  | .nil, _ => []
  | .cons info s rest, (v, vs) =>
    let others := rest.encode vs
    if info.leavesOut (s.isInitial v) then others else (info.key, s.encode v) :: others

end

end StatusRouter
