import StatusRouter.Json.Token

/-!
# Reading JSON texts

Lists and objects are read one step at a time: `nextItem` and `nextMember` go to the next item or
member, and `closeList` and `closeObject` take the closing bracket.  `readValue` builds on them to
read a value of any form, `passValue` to step over one.
-/

namespace StatusRouter.Json

namespace Cursor

/-! ## Steps through lists and objects -/

/-- Goes to the next item of a list; nothing if the list ends here. -/
def nextItem (cur : Cursor) (first : Bool) : Except TextError (Option Cursor) :=
  let cur := cur.skipSpace
  match cur.peek? with
  | none => cur.faultAhead .endInList
  | some c =>
    if c = ']' then .ok none
    else if first then .ok (some cur)
    else if c = ',' then
      let cur := cur.next.skipSpace
      match cur.peek? with
      | none => cur.faultAhead .endInValue
      | some c => if c = ']' then cur.faultAhead .trailingComma else .ok (some cur)
    else cur.faultAhead .noListCommaOrEnd

/-- Goes to the value of the next member of an object, past the key; nothing if the object ends
here.  The cursor that comes with the key stands before the colon. -/
def nextMember (cur : Cursor) (first : Bool) : Except TextError (Option (String × Cursor)) :=
  let cur := cur.skipSpace
  match cur.peek? with
  | none => cur.faultAhead .endInObject
  | some c =>
    if c = '\x7d' then .ok none
    else if first then
      if c = '"' then some <$> cur.next.readString else cur.faultAhead .keyNotString
    else if c = ',' then
      let cur := cur.next.skipSpace
      match cur.peek? with
      | none => cur.faultAhead .endInValue
      | some c =>
        if c = '"' then some <$> cur.next.readString
        else if c = '\x7d' then cur.faultAhead .trailingComma
        else cur.faultAhead .keyNotString
    else cur.faultAhead .noObjectCommaOrEnd

/-- Takes the colon between a key and its value. -/
def readColon (cur : Cursor) : Except TextError Cursor :=
  let cur := cur.skipSpace
  match cur.peek? with
  | none => cur.faultAhead .endInObject
  | some c => if c = ':' then .ok cur.next else cur.faultAhead .noColon

/-- Takes the closing bracket of a list. -/
def closeList (cur : Cursor) : Except TextError Cursor :=
  let cur := cur.skipSpace
  match cur.peek? with
  | none => cur.faultAhead .endInList
  | some c =>
    if c = ']' then .ok cur.next
    else if c = ',' then
      let cur := cur.next.skipSpace
      if cur.peek? == some ']' then cur.faultAhead .trailingComma
      else cur.faultAhead .trailingCharacters
    else cur.faultAhead .trailingCharacters

/-- Takes the closing brace of an object. -/
def closeObject (cur : Cursor) : Except TextError Cursor :=
  let cur := cur.skipSpace
  match cur.peek? with
  | none => cur.faultAhead .endInObject
  | some c =>
    if c = '\x7d' then .ok cur.next
    else if c = ',' then cur.faultAhead .trailingComma
    else cur.faultAhead .trailingCharacters

/-- Where a list is left when it is refused as a whole: behind its end if that comes next, or
behind a comma. -/
def leaveList (cur : Cursor) : Cursor :=
  let cur := cur.skipSpace
  if cur.peek? == some ']' then cur.next
  else if cur.peek? == some ',' then cur.next.skipSpace
  else cur

/-- Where an object is left when it is refused as a whole: behind its end if that comes next. -/
def leaveObject (cur : Cursor) : Cursor :=
  let cur := cur.skipSpace
  if cur.peek? == some '\x7d' then cur.next else cur

/-- Takes all items of a list with one reader, and its closing bracket, at most so many. -/
def readItems {α : Type} (item : Cursor → Except TextError (α × Cursor)) :
    Nat → Bool → Cursor → Except TextError (List α × Cursor)
  | 0, _, cur => cur.fault .endInList
  | bound + 1, first, cur => do
    match ← cur.nextItem first with
    | none => return ([], ← cur.closeList)
    | some cur =>
      let (a, cur) ← item cur
      let (rest, cur) ← readItems item bound false cur
      return (a :: rest, cur)

/-- Takes all members of an object with one reader, and its closing brace, at most so many.  The
reader is given the key and the cursor before the colon. -/
def readMembers {σ : Type} (member : σ → String → Cursor → Except TextError (σ × Cursor)) :
    Nat → Bool → σ → Cursor → Except TextError (σ × Cursor)
  | 0, _, _, cur => cur.fault .endInObject
  | bound + 1, first, state, cur => do
    match ← cur.nextMember first with
    | none => return (state, ← cur.closeObject)
    | some (key, cur) =>
      let (state, cur) ← member state key cur
      readMembers member bound false state cur

/-! ## Values of any form -/

/-- How deeply lists and objects may be nested. -/
def maxDepth : Nat := 127

/-- A value of any form, with at most so many levels of lists and objects.  Members are put into
ascending order of their keys, and the last of several with one key counts. -/
def readValue : Nat → Cursor → Except TextError (Json × Cursor)
  | depth, cur =>
    let cur := cur.skipSpace
    match cur.peek? with
    | none => cur.faultAhead .endInValue
    | some 'n' => return (.null, ← cur.next.readLetters ['u', 'l', 'l'])
    | some 't' => return (.bool true, ← cur.next.readLetters ['r', 'u', 'e'])
    | some 'f' => return (.bool false, ← cur.next.readLetters ['a', 'l', 's', 'e'])
    | some '"' => do
      let (s, cur) ← cur.next.readString
      return (.string s, cur)
    | some '[' =>
      match depth with
      | 0 => cur.faultAhead .tooDeep
      | depth + 1 => do
        let cur := cur.next
        let (items, cur) ← readItems (readValue depth) (cur.rest.length + 1) true cur
        return (.array items, cur)
    | some '\x7b' =>
      match depth with
      | 0 => cur.faultAhead .tooDeep
      | depth + 1 => do
        let cur := cur.next
        let (members, cur) ← readMembers
          (fun (members : KeyMap Json) key cur => do
            let (value, cur) ← readValue depth (← cur.readColon)
            return (members.insert key value, cur))
          (cur.rest.length + 1) true .empty cur
        return (.object members.entries, cur)
    | some c =>
      if c = '-' || c.isDigit then cur.readNumber else cur.faultAhead .noValue

/-! ## Stepping over values -/

/-- What is open around a place: a list or an object. -/
inductive Bracket where
  | list
  | object
  deriving DecidableEq

/-- Steps over what stands before a value in a list or an object: nothing, or a key. -/
def passKey (cur : Cursor) : Bracket → Except TextError Cursor
  | .list => .ok cur
  | .object => do
    let cur := cur.skipSpace
    match cur.peek? with
    | none => cur.faultAhead .endInObject
    | some c => if c = '"' then (← cur.next.passString).readColon else cur.faultAhead .keyNotString

mutual

/-- Steps over a value and then closes the brackets that are open, innermost first, in at most so
many steps. -/
def passOpen : Nat → List Bracket → Cursor → Except TextError Cursor
  | 0, _, cur => cur.fault .endInValue
  | bound + 1, opened, cur => do
    let cur := cur.skipSpace
    match cur.peek? with
    | none => cur.faultAhead .endInValue
    | some 'n' => passClosed bound opened true (← cur.next.readLetters ['u', 'l', 'l'])
    | some 't' => passClosed bound opened true (← cur.next.readLetters ['r', 'u', 'e'])
    | some 'f' => passClosed bound opened true (← cur.next.readLetters ['a', 'l', 's', 'e'])
    | some '"' => passClosed bound opened true (← cur.next.passString)
    | some '[' => passClosed bound (.list :: opened) false cur.next
    | some '\x7b' => passClosed bound (.object :: opened) false cur.next
    | some c =>
      if c = '-' || c.isDigit then passClosed bound opened true (← cur.passNumber)
      else cur.faultAhead .noValue

/-- Closes the brackets that are open, stepping over what is left in them; `behind` says whether a
value has just been passed. -/
def passClosed : Nat → List Bracket → Bool → Cursor → Except TextError Cursor
  | _, [], _, cur => .ok cur
  | 0, _ :: _, _, cur => cur.fault .endInValue
  | bound + 1, bracket :: opened, behind, cur => do
    let cur := cur.skipSpace
    match cur.peek? with
    | none => cur.faultAhead (if bracket = .list then .endInList else .endInObject)
    | some c =>
      if c = (if bracket = .list then ']' else '\x7d') then passClosed bound opened true cur.next
      else if !behind then passOpen bound (bracket :: opened) (← cur.passKey bracket)
      else if c = ',' then passOpen bound (bracket :: opened) (← cur.next.passKey bracket)
      else cur.faultAhead (if bracket = .list then .noListCommaOrEnd else .noObjectCommaOrEnd)

end

/-- Steps over a value of any form. -/
def passValue (cur : Cursor) : Except TextError Cursor :=
  passOpen (2 * cur.rest.length + 2) [] cur

end Cursor

/-- Reads a text that holds one value. -/
def parse (s : String) : Except TextError Json := do
  let (value, cur) ← (Cursor.start s).readValue Cursor.maxDepth
  let cur := cur.skipSpace
  if cur.rest.isEmpty then return value else cur.faultAhead .trailingCharacters

end StatusRouter.Json
