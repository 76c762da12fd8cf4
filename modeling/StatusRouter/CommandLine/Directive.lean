import StatusRouter.Number.Decimal
import StatusRouter.Text.Alphanumeric
import StatusRouter.Text.Blank
import StatusRouter.Text.Bytes

/-!
# Directives of a log filter

A directive is a level, or the name of a target, a span in square brackets, or both, with a level
after an equals sign.  The span may name a field in braces, with any text for its value.  What a
directive is about, its level apart, is its `Scope`.

Blanks around a directive are passed over, but its parts are taken from the text with the blanks, at
the places, counted in bytes, that they have without them.
-/

namespace StatusRouter

open Text (SplitCharacter slice sliceFrom)

/-- A field of a span, with the value it has to have, if any. -/
structure SpanField where
  name : String
  value : Option String
  deriving DecidableEq

namespace SpanField

/-- The field that a text names.  What follows a second equals sign is not looked at. -/
def ofText (s : List Char) : SpanField :=
  { name := String.ofList (s.takeWhile (· ≠ '='))
    value :=
      match s.dropWhile (· ≠ '=') with
      | [] => none
      | _ :: value => some (String.ofList (value.takeWhile (· ≠ '='))) }

/-- Whether a value is looked for as it stands, not as a truth value or a number. -/
def isLiteral (value : String) : Bool :=
  !(["true", "false"].contains value || SignedDecimal.isNumberText value.toList)

/-- The field as diagnostics show it, with a value that is looked for as it stands. -/
def describe (name value : String) : String :=
  "Match \x7b name: " ++ Text.quoted name ++ ", value: Some(Debug(MatchDebug \x7b pattern: " ++
    Text.quoted value ++ " \x7d)) \x7d"

end SpanField

/-- What a directive is about. -/
structure Scope where
  target : Option String
  span : Option String
  field : Option SpanField
  deriving DecidableEq

namespace Scope

/-- Everything. -/
def everything : Scope := ⟨none, none, none⟩

/-- The name and the value of the field, if the value is looked for as it stands. -/
def literal? (scope : Scope) : Option (String × String) :=
  match scope.field with
  | some ⟨name, some value⟩ => if SpanField.isLiteral value then some (name, value) else none
  | _ => none

end Scope

/-- Why a text is no directive. -/
inductive DirectiveFault where
  | malformed
  /-- A part would begin or end inside a character. -/
  | split (character : SplitCharacter)
  deriving DecidableEq

namespace Directive

/-! ## Levels -/

/-- The names of the levels. -/
def levelNames : List String := ["error", "warn", "info", "debug", "trace", "off"]

/-- The number that a text of decimal digits stands for, with an optional plus sign. -/
def number? (s : List Char) : Option Nat :=
  let digits := match s with
    | '+' :: digits => digits
    | digits => digits
  if digits.isEmpty || !digits.all Char.isDigit then none else some (SignedDecimal.natOf digits)

/-- Whether a text is a level: a name in any case, a number from zero to five, or nothing. -/
def isLevel (s : List Char) : Bool :=
  s.isEmpty || (number? s).any (· ≤ 5) || levelNames.contains (String.ofList (s.map Char.toLower))

/-! ## Reading -/

/-- Where a directive is while it is read; `first` is the place where the current part begins. -/
inductive State where
  | start
  | levelOrTarget
  | span (first : Nat)
  | field (first : Nat)
  | fields
  | target
  | level (first : Nat)

/-- Whether a directive may begin with a character. -/
def mayBegin (c : Char) : Bool :=
  c = '-' || c = ':' || c = '_' || Text.isAlphanumeric c

/-- The part of a directive between two places. -/
def part (directive : List Char) (first last : Nat) : Except DirectiveFault (List Char) :=
  (slice directive first last).mapError .split

/-- What is known of the scope after the character at a place of a directive, and the state
there. -/
def State.after (directive : List Char) (place : Nat) (c : Char) (scope : Scope) :
    State → Except DirectiveFault (Scope × State)
  | start =>
    if c = '[' then .ok (scope, span (place + 1))
    else if mayBegin c then .ok (scope, levelOrTarget)
    else .error .malformed
  | levelOrTarget => do
    if c = '=' then
      let name ← part directive 0 place
      return ({ scope with target := some (String.ofList name) }, level (place + 1))
    else if c = '[' then
      let name ← part directive 0 place
      return ({ scope with target := some (String.ofList name) }, span (place + 1))
    else return (scope, levelOrTarget)
  | span first => do
    if c = ']' then
      let name ← part directive first place
      return ({ scope with span := some (String.ofList name) }, target)
    else if c = '\x7b' then
      let name ← part directive first place
      let span := if name.isEmpty then none else some (String.ofList name)
      return ({ scope with span }, field (place + 1))
    else return (scope, span first)
  | field first => do
    if c = '\x7d' then
      let text ← part directive first place
      if text.isEmpty then throw .malformed
      else return ({ scope with field := some (.ofText text) }, fields)
    else return (scope, field first)
  | fields => if c = ']' then .ok (scope, target) else .error .malformed
  | target => if c = '=' then .ok (scope, level (place + 1)) else .error .malformed
  | level first => .ok (scope, level first)

/-- What is known of the scope after the characters of a directive from a place on, and the state
there. -/
def State.afterAll (directive : List Char) (place : Nat) :
    List Char → Scope → State → Except DirectiveFault (Scope × State)
  | [], scope, state => .ok (scope, state)
  | c :: rest, scope, state => do
    let (scope, state) ← state.after directive place c scope
    state.afterAll directive (place + c.utf8Size) rest scope

/-- What the directive that a text gives is about. -/
def readScope (directive : List Char) : Except DirectiveFault Scope := do
  let body := (Text.skipBlanks (Text.skipBlanks directive).reverse).reverse
  match ← State.start.afterAll directive 0 body .everything with
  | (scope, .levelOrTarget) =>
    if isLevel directive then return scope
    else return { scope with target := some (String.ofList directive) }
  | (scope, .target) => return scope
  | (scope, .level first) =>
    let name ← (sliceFrom directive first).mapError .split
    if isLevel name then return scope else throw .malformed
  | _ => throw .malformed

end Directive

end StatusRouter
