import StatusRouter.Condition.Manager

/-!
# Runs of operations

A run is a list of steps, and a step is one operation together with the manager that performs it.
So the managers of a run may change from step to step, and with them the timestamp and even the
condition set; nothing asks the timestamps to increase.  A reconciliation pass is a stretch of steps
of one manager, and `performAll_eq_run` says so.
-/

namespace StatusRouter.ConditionManager

/-- An operation together with the manager that performs it. -/
structure Step where
  manager : ConditionManager
  operation : Operation
  deriving DecidableEq

/-- The conditions after a step. -/
def Step.perform (step : Step) (conditions : List Condition) : List Condition :=
  step.manager.perform conditions step.operation

/-- The conditions after the steps of a run. -/
def run (conditions : List Condition) (steps : List Step) : List Condition :=
  steps.foldl (fun conditions step => step.perform conditions) conditions

@[simp] theorem run_nil (conditions : List Condition) : run conditions [] = conditions := rfl

theorem run_append (conditions : List Condition) (earlier later : List Step) :
    run conditions (earlier ++ later) = run (run conditions earlier) later :=
  List.foldl_append

@[simp] theorem run_append_singleton (conditions : List Condition) (steps : List Step)
    (step : Step) :
    run conditions (steps ++ [step]) = step.perform (run conditions steps) := by
  rw [run_append]
  rfl

/-- A pass is a run of one manager. -/
theorem performAll_eq_run (manager : ConditionManager) (conditions : List Condition)
    (operations : List Operation) :
    manager.performAll conditions operations = run conditions (operations.map (Step.mk manager)) := by
  rw [run, List.foldl_map]
  rfl

/-- The type that an operation marks, if it marks one. -/
def Operation.marked? : Operation → Option ConditionType
  | .initializing => none
  | .marking type _ => some type

/-- A time of the first day of 2024, so many seconds after midnight. -/
def exampleTime (second : Fin 60) : Instant :=
  { date := ⟨2024, 1, 1, by decide, by decide⟩
    minute := 0
    second := second
    nanosecond := 0
    minute_lt := Nat.succ_pos _
    second_le := by omega
    nanosecond_lt := Nat.succ_pos _ }

end StatusRouter.ConditionManager
