import StatusRouter.Proofs.Condition.Aggregate
import StatusRouter.Proofs.Condition.ByType

/-!
# Initializing completes a list

Initializing adds the declared conditions that are missing, each as unknown, and derives the
aggregate.  Which ones are missing is read off the list at the start, and the additions are made one
after another; but an addition is only seen under its own type, so each of the missing types gets the
one condition that it would get alone (`ofType_initializeConditions`).

A list is *initialized* under a set if every declared type has a condition and the list is settled.
Initializing makes any list so, and operations of the set keep it so (`initialized_run`).  On an
initialized list initializing finds nothing to add and writes of the aggregate what is recorded
already.  So it changes nothing when it is done again, whatever the timestamps are, and whatever the
aggregate was like in the beginning.
-/

namespace StatusRouter.ConditionManager

variable {manager : ConditionManager} {set : ConditionSet} {conditions : List Condition}
  {type : ConditionType}

/-! ## What initializing adds -/

/-- Of every type but the aggregate, initializing leaves the conditions as they are, or adds the only
one. -/
theorem ofType_initializeConditions (htype : type ≠ manager.set.happy) :
    ofType type (manager.initializeConditions conditions) =
      if type ∈ manager.set.dependents ∧ findCondition? type conditions = none then
        [manager.create type .unknown]
      else ofType type conditions := by
  rw [initializeConditions_eq, recompute, ofType_setCondition_of_ne htype, ofType_complete]
  simp [ConditionSet.declared, htype]

theorem create_of_mem_dependents (outcome : Outcome) (h : type ∈ manager.set.dependents) :
    manager.create type outcome =
      ⟨type, outcome.status, .error, some manager.now, outcome.reason, outcome.message⟩ := by
  have hdeclared : manager.set.isDeclared type = true :=
    (manager.set.isDeclared_iff type).mpr (Or.inr h)
  rw [create, (manager.set.severity_eq_error_iff type).mpr hdeclared]

theorem mem_map_type_addedTo_initializeConditions :
    type ∈ (addedTo conditions (manager.initializeConditions conditions)).map Condition.type ↔
      type ∈ manager.set.declared ∧ type ∉ conditions.map Condition.type := by
  have hperform : type ∈ (manager.perform conditions .initializing).map Condition.type ↔ _ :=
    manager.mem_map_type_perform
  rw [perform] at hperform
  have hhappy : type = manager.set.happy → type ∈ manager.set.declared := by
    rintro rfl
    exact List.mem_cons_self
  rw [mem_map_type_addedTo, hperform]
  simp only [Operation.marked?]
  tauto

/-! ## Initialized lists -/

/-- Every declared type has a condition, and the aggregate is recorded with what the dependents come
to. -/
structure Initialized (set : ConditionSet) (conditions : List Condition) : Prop where
  settled : Settled set conditions
  present : ∀ type ∈ set.declared, findCondition? type conditions ≠ none

theorem initialized_initializeConditions :
    Initialized manager.set (manager.initializeConditions conditions) where
  settled := manager.settled_perform .initializing
  present := by
    intro type htype
    rw [← mem_map_type_iff]
    exact manager.mem_map_type_perform.mpr (Or.inr (Or.inr (Or.inr ⟨rfl, htype⟩)))

theorem Initialized.perform (h : Initialized manager.set conditions) (operation : Operation) :
    Initialized manager.set (manager.perform conditions operation) where
  settled := manager.settled_perform operation
  present := fun type htype => manager.findCondition?_perform_ne_none (h.present type htype)

theorem Initialized.run {steps : List Step} (h : Initialized set conditions)
    (hset : ∀ step ∈ steps, step.manager.set = set) :
    Initialized set (run conditions steps) := by
  induction steps using List.reverseRecOn with
  | nil => exact h
  | append_singleton steps last ih =>
      obtain ⟨hearlier, hlast⟩ := List.forall_mem_append.mp hset
      obtain rfl : last.manager.set = set := hlast last (List.mem_singleton.mpr rfl)
      rw [run_append_singleton]
      exact (ih hearlier).perform last.operation

/-- Initializing an initialized list changes nothing. -/
theorem Initialized.initializeConditions_eq_self (h : Initialized manager.set conditions) :
    manager.initializeConditions conditions = conditions :=
  h.settled.initializeConditions_eq_self (manager.missing_eq_nil_iff.mpr h.present)

/-- Initializing any list leaves a condition of every declared type.  It removes no condition and keeps
those that are there in their order; all but the first one of the aggregate stay as they are, in every
field.  It adds one condition for each declared type that had none, and no others; that of a dependent
is unknown, an error, without words, and has the time of the manager.  When it is done again under the
same set, right away or after any operations under the set, it changes nothing, whatever the
timestamps are. -/
theorem initialization_of_any_list (set : ConditionSet) (before : List Condition)
    (first second : Instant) :
    let after := (ConditionManager.mk set first).initializeConditions before
    (∀ type ∈ set.declared, ∃ c, findCondition? type after = some c) ∧
    Extends (fun type => type = set.happy) before after ∧
    (∀ type, type ∈ (addedTo before after).map Condition.type ↔
      type ∈ set.declared ∧ type ∉ before.map Condition.type) ∧
    (∀ type ∈ set.dependents, findCondition? type before = none →
      ofType type after = [⟨type, .unknown, .error, some first, "", ""⟩]) ∧
    (ConditionManager.mk set second).initializeConditions after = after ∧
    ∀ steps : List Step, (∀ step ∈ steps, step.manager.set = set) →
      (ConditionManager.mk set second).initializeConditions (run after steps) =
        run after steps := by
  intro after
  let manager : ConditionManager := ⟨set, first⟩
  let later : ConditionManager := ⟨set, second⟩
  have hinitialized : Initialized manager.set after := initialized_initializeConditions
  refine ⟨?_, ?_, fun type => mem_map_type_addedTo_initializeConditions, ?_, ?_, ?_⟩
  · intro type htype
    exact Option.ne_none_iff_exists'.mp (hinitialized.present type htype)
  · have hextends := manager.extends_perform before .initializing
    simp only [Operation.marked?, reduceCtorEq, or_false] at hextends
    exact hextends
  · intro type htype hnone
    have hne : type ≠ set.happy := fun heq => set.happy_notMem (heq ▸ htype)
    have hadded : ofType type after = [manager.create type .unknown] := by
      rw [ofType_initializeConditions hne, if_pos ⟨htype, hnone⟩]
    rw [hadded, create_of_mem_dependents .unknown htype]
    rfl
  · have hlater : Initialized later.set after := hinitialized
    exact hlater.initializeConditions_eq_self
  · intro steps hset
    have hlater : Initialized later.set (run after steps) := hinitialized.run hset
    exact hlater.initializeConditions_eq_self

/-- The list is not in order, has two conditions of one dependent and two of the aggregate, and the
first of these is met, informs only and has no time.  The aggregate is put right by the first
initialization, and the second one leaves it alone, also after a mark. -/
theorem initialization_of_any_list_of_stale_aggregate :
    let set : ConditionSet := .living [⟨"Second"⟩, ⟨"First"⟩]
    let stale : Condition := ⟨.ready, .met, .info, none, "Stale", ""⟩
    let found : Condition := ⟨⟨"First"⟩, .unmet, .warning, none, "Broken", ""⟩
    let repeated : Condition := ⟨⟨"First"⟩, .met, .info, none, "", ""⟩
    let before := [stale, found, repeated, stale]
    let after := (ConditionManager.mk set (exampleTime 10)).initializeConditions before
    let steps : List Step := [⟨⟨set, exampleTime 20⟩, .marking ⟨"Second"⟩ ⟨.unmet, "Late", ""⟩⟩]
    ⟨"Second"⟩ ∈ set.declared ∧ ⟨"Second"⟩ ∈ set.dependents ∧
      findCondition? ⟨"Second"⟩ before = none ∧
      ofType ⟨"Second"⟩ after = [⟨⟨"Second"⟩, .unknown, .error, some (exampleTime 10), "", ""⟩] ∧
      ofType ⟨"First"⟩ after = [found, repeated] ∧
      ofType .ready after = [⟨.ready, .unknown, .error, some (exampleTime 10), "", ""⟩, stale] ∧
      (ConditionManager.mk set (exampleTime 30)).initializeConditions after = after ∧
      (∀ step ∈ steps, step.manager.set = set) ∧
      (ConditionManager.mk set (exampleTime 30)).initializeConditions (run after steps) =
        run after steps := by
  intro set stale found repeated before after steps
  obtain ⟨-, -, -, hadded, hagain, hlater⟩ :=
    initialization_of_any_list set before (exampleTime 10) (exampleTime 30)
  have hdependent : ⟨"Second"⟩ ∈ set.dependents := by decide
  have hmissing : findCondition? ⟨"Second"⟩ before = none := by decide
  have hset : ∀ step ∈ steps, step.manager.set = set := by decide
  exact ⟨by decide, hdependent, hmissing, hadded ⟨"Second"⟩ hdependent hmissing,
    by decide +kernel, by decide +kernel, hagain, hset, hlater steps hset⟩

end StatusRouter.ConditionManager
