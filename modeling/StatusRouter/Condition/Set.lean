import StatusRouter.Condition.Basic
import StatusRouter.Distinct
import StatusRouter.LogEvent

/-!
# Condition sets

A condition set declares the conditions that a kind of resource depends on, and the type of the
aggregate that is derived from them.  The dependents have an order, which is the order in which
their reasons take precedence.

A shared set is the set in effect for a kind of resource.  Whoever loads it keeps what it loaded;
replacing it has an effect on later loads only.  There may be several handles to a shared set, and it is
replaced through any of them.
-/

namespace StatusRouter

/-- The conditions that a kind of resource depends on to be happy. -/
structure ConditionSet where
  /-- The type of the aggregate. -/
  happy : ConditionType
  dependents : List ConditionType
  nodup : dependents.Nodup
  happy_notMem : happy ∉ dependents
  deriving DecidableEq

namespace ConditionSet

/-- The set with the given aggregate and dependents; repeated dependents and the aggregate itself
are dropped from the dependents. -/
def of (happy : ConditionType) (dependents : List ConditionType) : ConditionSet :=
  { happy := happy
    dependents := distinct (dependents.filter (· ≠ happy))
    nodup := nodup_distinct _
    happy_notMem := by simp }

/-- The dependents are the members of the list other than the aggregate. -/
theorem mem_dependents_of {happy type : ConditionType} {dependents : List ConditionType} :
    type ∈ (of happy dependents).dependents ↔ type ∈ dependents ∧ type ≠ happy := by
  simp [of]

/-- A set is made anew from its aggregate and its dependents. -/
theorem of_dependents (set : ConditionSet) : of set.happy set.dependents = set := by
  obtain ⟨happy, dependents, hnodup, hnotMem⟩ := set
  have hfilter : dependents.filter (· ≠ happy) = dependents := by
    rw [List.filter_eq_self]
    intro type htype
    have hne : type ≠ happy := fun heq => hnotMem (heq ▸ htype)
    simpa using hne
  simp only [of, hfilter, distinct_of_nodup hnodup]

/-- A set for resources that run on. -/
def living (dependents : List ConditionType) : ConditionSet :=
  of .ready dependents

/-- A set for resources that run to completion. -/
def batch (dependents : List ConditionType) : ConditionSet :=
  of .succeeded dependents

/-- The aggregate, and then the dependents. -/
def declared (set : ConditionSet) : List ConditionType :=
  set.happy :: set.dependents

theorem nodup_declared (set : ConditionSet) : set.declared.Nodup :=
  List.nodup_cons.2 ⟨set.happy_notMem, set.nodup⟩

def isDeclared (set : ConditionSet) (type : ConditionType) : Bool :=
  set.declared.contains type

theorem isDeclared_iff (set : ConditionSet) (type : ConditionType) :
    set.isDeclared type = true ↔ type = set.happy ∨ type ∈ set.dependents := by
  simp [isDeclared, declared]

/-- Declared conditions are errors; all others inform only. -/
def severity (set : ConditionSet) (type : ConditionType) : Severity :=
  if set.isDeclared type then .error else .info

theorem severity_eq_error_iff (set : ConditionSet) (type : ConditionType) :
    set.severity type = .error ↔ set.isDeclared type = true := by
  by_cases h : set.isDeclared type <;> simp [severity, h]

/-- The dependents as diagnostics show them. -/
def describeDependents (set : ConditionSet) : String :=
  "[" ++ ", ".intercalate (set.dependents.map ConditionType.describe) ++ "]"

/-- The set as diagnostics show it. -/
def describe (set : ConditionSet) : String :=
  "ConditionSet \x7b happy: " ++ set.happy.describe ++ ", dependents: " ++
    set.describeDependents ++ " \x7d"

end ConditionSet

/-- The condition set in effect for a kind of resource. -/
structure SharedConditionSet where
  current : ConditionSet
  deriving DecidableEq

namespace SharedConditionSet

/-- The set in effect. -/
def load (shared : SharedConditionSet) : ConditionSet := shared.current

/-- The event that reports a replacement. -/
def replacing (set : ConditionSet) : LogEvent :=
  .plain .info "Replacing condition set"
    [("happy", set.happy.name), ("dependents", set.describeDependents)]

/-- Puts another set into effect; also the set that was in effect, and the event that reports the
replacement. -/
def replace (shared : SharedConditionSet) (set : ConditionSet) :
    SharedConditionSet × ConditionSet × LogEvent :=
  (⟨set⟩, shared.current, replacing set)

end SharedConditionSet

/-- Shared sets, each in a cell, and the handles to them.  A handle is known by its place among the
handles, and a clone of a handle leads to the same cell. -/
structure SharedHandles where
  cells : List SharedConditionSet
  /-- The cell to which each handle leads. -/
  handles : List Nat

namespace SharedHandles

/-- A shared set with its first handle. -/
def of (set : ConditionSet) : SharedHandles := ⟨[⟨set⟩], [0]⟩

variable (shared : SharedHandles) (handle : Nat)

/-- The shared set to which a handle leads, if there is such a handle. -/
def find? : Option SharedConditionSet := do
  shared.cells[← shared.handles[handle]?]?

/-- One more handle to the set to which a handle leads. -/
def clone? : Option SharedHandles := do
  let cell ← shared.handles[handle]?
  return { shared with handles := shared.handles ++ [cell] }

/-- Puts another set into effect through a handle. -/
def replace? (set : ConditionSet) : Option (SharedHandles × ConditionSet × LogEvent) := do
  let cell ← shared.handles[handle]?
  let current ← shared.cells[cell]?
  let (changed, previous, event) := current.replace set
  return ({ shared with cells := shared.cells.set cell changed }, previous, event)

end SharedHandles

end StatusRouter
