import StatusRouter.CommandLine.Directive
import StatusRouter.Distinct

/-!
# Log filters

A log filter says which events are written: a list of directives with commas between them.  The
checker here tells a filter from a text that is none.  Of two directives about the same scope the
later one counts, but if the scope has a field with a value that is looked for as it stands, the two
cannot be put in order and there is no filter.
-/

namespace StatusRouter.LogFilter

/-- Why a text is no log filter. -/
inductive Fault where
  | directive (fault : DirectiveFault)
  /-- Two directives are about the same scope, with this field and this value. -/
  | repeated (name value : String)
  deriving DecidableEq

/-- The text of the fault. -/
def Fault.message : Fault → String
  | directive .malformed => "invalid filter directive"
  | directive (.split character) => character.message
  | repeated name value =>
    let fields := "[" ++ SpanField.describe name value ++ "]"
    "assertion `left == right` failed: invariant violated: " ++
      "Ordering::Equal must imply a.fields == b.fields\n  left: " ++ fields ++
      "\n right: " ++ fields

/-- The scopes of the directives; directives without any character are passed over. -/
def readScopes (s : String) : Except Fault (List Scope) :=
  ((s.splitOn ",").filter fun directive => !directive.isEmpty).mapM fun directive =>
    (Directive.readScope directive.toList).mapError .directive

/-- Refuses a text that is no log filter. -/
def check (s : String) : Except Fault Unit := do
  let scopes ← readScopes s
  match (firstRepeated? (scopes.filter fun scope => scope.literal?.isSome)).bind Scope.literal? with
  | some (name, value) => throw (.repeated name value)
  | none => return ()

end StatusRouter.LogFilter
