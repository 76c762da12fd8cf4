import StatusRouter.Condition.Set
import StatusRouter.PartitionPoint
import StatusRouter.Time.Rfc3339

/-!
# Managing conditions

A manager changes the conditions of a status under one condition set and with one timestamp.  Each
operation ends by deriving the aggregate from the dependents anew, so the aggregate never disagrees
with them after an operation.

The list is kept in order of the types.  Lists that come from elsewhere need not be in order, so
conditions are found by looking through the list, and the first of a type is the one that counts.
Only the place of a new condition is found by halving the list.
-/

namespace StatusRouter

/-- What is said of a condition: a status, why, and in which words. -/
structure Outcome where
  status : ConditionStatus
  reason : String
  message : String
  deriving DecidableEq

namespace Outcome

/-- A condition that is met needs no words. -/
def met : Outcome := ⟨.met, "", ""⟩

/-- Nothing is known yet. -/
def unknown : Outcome := ⟨.unknown, "", ""⟩

end Outcome

/-- What is said of a condition. -/
def Condition.outcome (c : Condition) : Outcome := ⟨c.status, c.reason, c.message⟩

/-- Changes the conditions of a status under one set and with one timestamp. -/
structure ConditionManager where
  set : ConditionSet
  now : Instant
  deriving DecidableEq

namespace ConditionManager

variable (manager : ConditionManager)

/-- A condition with a new outcome; the time moves when the status changes its value, or when there
was none. -/
def revise (outcome : Outcome) (c : Condition) : Condition :=
  { type := c.type
    status := outcome.status
    severity := manager.set.severity c.type
    lastTransitionTime :=
      if c.status ≠ outcome.status ∨ c.lastTransitionTime = none then some manager.now
      else c.lastTransitionTime
    reason := outcome.reason
    message := outcome.message }

/-- A condition that was not there before. -/
def create (type : ConditionType) (outcome : Outcome) : Condition :=
  { type := type
    status := outcome.status
    severity := manager.set.severity type
    lastTransitionTime := some manager.now
    reason := outcome.reason
    message := outcome.message }

/-- Revises the first condition of a type. -/
def reviseFirst (type : ConditionType) (outcome : Outcome) : List Condition → List Condition
  | [] => []
  | c :: rest =>
    if c.type = type then manager.revise outcome c :: rest
    else c :: reviseFirst type outcome rest

/-- Puts a new condition at the partition point of the smaller types. -/
def insertNew (type : ConditionType) (outcome : Outcome) (conditions : List Condition) :
    List Condition :=
  conditions.insertIdx (partitionPoint (fun c => c.type < type) conditions)
    (manager.create type outcome)

/-- Sets the condition of a type. -/
def setCondition (type : ConditionType) (outcome : Outcome) (conditions : List Condition) :
    List Condition :=
  if conditions.any fun c => c.type = type then manager.reviseFirst type outcome conditions
  else manager.insertNew type outcome conditions

theorem findCondition?_reviseFirst (type other : ConditionType) (outcome : Outcome)
    (conditions : List Condition) :
    findCondition? other (manager.reviseFirst type outcome conditions) =
      if other = type then (findCondition? type conditions).map (manager.revise outcome)
      else findCondition? other conditions := by
  induction conditions with
  | nil => simp [reviseFirst]
  | cons c rest ih =>
    unfold reviseFirst
    by_cases hc : c.type = type
    · by_cases h : other = type
      · simp [findCondition?_cons, revise, hc, h]
      · have hne : ¬ type = other := fun heq => h heq.symm
        simp [findCondition?_cons, revise, hc, h, hne]
    · rw [if_neg hc, findCondition?_cons, ih]
      by_cases h : other = type
      · subst h
        simp [findCondition?_cons, hc]
      · simp [findCondition?_cons, h]

theorem findCondition?_insertNew {type : ConditionType} (other : ConditionType)
    (outcome : Outcome) {conditions : List Condition}
    (hnew : findCondition? type conditions = none) :
    findCondition? other (manager.insertNew type outcome conditions) =
      if other = type then some (manager.create type outcome)
      else findCondition? other conditions :=
  findCondition?_insertIdx other (partitionPoint_le_length conditions) hnew

/-- The condition that is found after a write: the first one of the type revised, or a new one. -/
def written (type : ConditionType) (outcome : Outcome) (conditions : List Condition) : Condition :=
  ((findCondition? type conditions).map (manager.revise outcome)).getD (manager.create type outcome)

/-- Setting a condition is seen under its type and nowhere else. -/
theorem findCondition?_setCondition (type other : ConditionType) (outcome : Outcome)
    (conditions : List Condition) :
    findCondition? other (manager.setCondition type outcome conditions) =
      if other = type then some (manager.written type outcome conditions)
      else findCondition? other conditions := by
  unfold setCondition written
  split
  · rename_i hany
    rw [findCondition?_reviseFirst]
    cases hfind : findCondition? type conditions with
    | none =>
      rw [findCondition?_eq_none] at hfind
      simp only [List.any_eq_true, decide_eq_true_eq] at hany
      obtain ⟨c, hc, htype⟩ := hany
      exact absurd htype (hfind c hc)
    | some c => rfl
  · rename_i hany
    have hnew : findCondition? type conditions = none := by
      simpa [findCondition?_eq_none] using hany
    rw [findCondition?_insertNew manager other outcome hnew, hnew]
    rfl

/-- What the dependents say of the aggregate: the first one that is missing or unknown makes it
unknown; if there is none, the first one that is not met makes it not met; else it is met. -/
def aggregate (conditions : List Condition) : Outcome :=
  let undecided := manager.set.dependents.findSome? fun type =>
    match findCondition? type conditions with
    | none => some Outcome.unknown
    | some c => if c.isUnknown then some c.outcome else none
  let failed := manager.set.dependents.findSome? fun type =>
    match findCondition? type conditions with
    | none => none
    | some c => if c.isFalse then some c.outcome else none
  (undecided.or failed).getD Outcome.met

/-- Derives the aggregate anew. -/
def recompute (conditions : List Condition) : List Condition :=
  manager.setCondition manager.set.happy (manager.aggregate conditions) conditions

/-- Sets a condition and derives the aggregate anew. -/
def mark (type : ConditionType) (outcome : Outcome) (conditions : List Condition) :
    List Condition :=
  manager.recompute (manager.setCondition type outcome conditions)

/-- The declared types that have no condition, in the order of their declaration. -/
def missing (conditions : List Condition) : List ConditionType :=
  manager.set.declared.filter fun type => !conditions.any fun c => c.type = type

/-- Adds the declared conditions that are missing, as unknown, and derives the aggregate anew. -/
def initializeConditions (conditions : List Condition) : List Condition :=
  manager.recompute
    ((manager.missing conditions).foldl
      (fun conditions type => manager.setCondition type .unknown conditions) conditions)

/-- The condition of the aggregate. -/
def topLevel? (conditions : List Condition) : Option Condition :=
  findCondition? manager.set.happy conditions

/-- Whether the aggregate is met. -/
def isHappy (conditions : List Condition) : Bool :=
  (manager.topLevel? conditions).any Condition.isTrue

/-- The manager as diagnostics show it, its timestamp being written `now`. -/
def describe (now : String) : String :=
  "ConditionManager \x7b set: " ++ manager.set.describe ++ ", now: " ++ now ++ " \x7d"

/-- An operation on the conditions of a status. -/
inductive Operation where
  | initializing
  | marking (type : ConditionType) (outcome : Outcome)
  deriving DecidableEq

namespace Operation

variable (type : ConditionType) (reason message : String)

/-- A condition is met, and that needs no words. -/
def markTrue : Operation := .marking type ⟨.met, "", ""⟩

def markTrueWithReason : Operation := .marking type ⟨.met, reason, message⟩

def markFalse : Operation := .marking type ⟨.unmet, reason, message⟩

def markUnknown : Operation := .marking type ⟨.unknown, reason, message⟩

end Operation

/-- Performs an operation. -/
def perform (conditions : List Condition) : Operation → List Condition
  | .initializing => manager.initializeConditions conditions
  | .marking type outcome => manager.mark type outcome conditions

/-- Performs operations one after another. -/
def performAll (conditions : List Condition) (operations : List Operation) : List Condition :=
  operations.foldl manager.perform conditions

end ConditionManager

end StatusRouter
