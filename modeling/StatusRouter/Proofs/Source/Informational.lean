import StatusRouter.Proofs.Condition.Undeclared
import StatusRouter.Proofs.Source.Sink

/-!
# Conditions that inform only

The set of a source need not declare all conditions that its passes mark: the default set leaves out
the key type.  Such a condition is kept in the list like the others, and is marked between the others,
at its own times.  But nothing depends on it.  A run with any such marks put in leaves all other
conditions as they are without them, and so the source is as ready (`outside_run_eq_of_added`).

For a source the marks are those of calls, so the calls that mark an undeclared condition may be made
or not.
-/

namespace StatusRouter

open ConditionManager (Entry ownSteps)

namespace SourceStep

/-- The type that a step marks, if it marks one. -/
def marked? (step : SourceStep) : Option ConditionType :=
  step.conditionStep?.bind fun conditionStep => conditionStep.operation.marked?

variable (aside : ConditionType → Prop) [DecidablePred aside]

/-- Whether a step marks a type that is set aside. -/
def marksAside (step : SourceStep) : Bool := step.marked?.any fun type => aside type

/-- The steps on the conditions, with those that mark types set aside as put in. -/
def entries (steps : List SourceStep) : List Entry :=
  steps.filterMap fun step => step.conditionStep?.map (.mk · (step.marksAside aside))

theorem map_step_entries (steps : List SourceStep) :
    (entries aside steps).map Entry.step = steps.filterMap conditionStep? := by
  rw [entries, List.map_filterMap]
  refine congrArg (List.filterMap · steps) (funext fun step => ?_)
  cases step.conditionStep? <;> rfl

theorem ownSteps_entries (steps : List SourceStep) :
    ownSteps (entries aside steps) =
      (steps.filter fun step => !step.marksAside aside).filterMap conditionStep? := by
  rw [ownSteps, entries, List.filter_filterMap, List.map_filterMap, List.filterMap_filter]
  refine congrArg (List.filterMap · steps) (funext fun step => ?_)
  cases step.conditionStep? <;> cases step.marksAside aside <;> rfl

variable {aside} {set : ConditionSet} {steps : List SourceStep}

theorem exists_of_mem_entries {entry : Entry} (h : entry ∈ entries aside steps) :
    ∃ step ∈ steps, step.conditionStep? = some entry.step ∧
      step.marksAside aside = entry.added := by
  obtain ⟨step, hstep, hentry⟩ := List.mem_filterMap.mp h
  obtain ⟨conditionStep, hsome, rfl⟩ := Option.map_eq_some_iff.mp hentry
  exact ⟨step, hstep, hsome, rfl⟩

theorem set_of_mem_entries (hset : ∀ step ∈ steps, step.manager.conditions.set = set) :
    ∀ entry ∈ entries aside steps, entry.step.manager.set = set := by
  intro entry hentry
  obtain ⟨step, hstep, hsome, -⟩ := exists_of_mem_entries hentry
  obtain ⟨operation, -, hentryStep⟩ := Option.map_eq_some_iff.mp hsome
  rw [← hentryStep]
  exact hset step hstep

/-- What is put in are marks of types that are set aside. -/
theorem marks_of_mem_entries : ∀ entry ∈ entries aside steps, entry.added = true →
    ∃ type outcome, aside type ∧ entry.step.operation = .marking type outcome := by
  intro entry hentry hadded
  obtain ⟨step, -, hsome, hmarks⟩ := exists_of_mem_entries hentry
  rw [← hmarks, marksAside, marked?, hsome, Option.bind_some] at hadded
  cases hoperation : entry.step.operation with
  | initializing => simp [hoperation, ConditionManager.Operation.marked?] at hadded
  | marking type outcome =>
      refine ⟨type, outcome, ?_, rfl⟩
      simpa [hoperation, ConditionManager.Operation.marked?] using hadded

/-- Whoever reads the aggregate of a set finds the same whether or not calls are made that mark types
that the set does not declare, if the conditions were initialized before. -/
theorem topLevel?_run_eq (hundeclared : ∀ type, aside type → type ∉ set.declared)
    (status : KafkaSourceStatus) {opening reader : SourceManager}
    (hopening : opening.conditions.set = set) (hreader : reader.conditions.set = set)
    (hset : ∀ step ∈ steps, step.manager.conditions.set = set) :
    let opened := opening.perform status .initializing
    reader.topLevel? (run opened steps) =
      reader.topLevel? (run opened (steps.filter fun step => !step.marksAside aside)) := by
  intro opened
  let start : ConditionManager.Step := ⟨opening.conditions, .initializing⟩
  have hrun : ∀ steps : List SourceStep, (run opened steps).conditions =
      ConditionManager.run status.conditions (start :: steps.filterMap conditionStep?) := by
    intro steps
    rw [conditions_run]
    rfl
  have hsame : SameOutside aside
      (ConditionManager.run status.conditions (start :: (entries aside steps).map Entry.step))
      (ConditionManager.run status.conditions (start :: ownSteps (entries aside steps))) :=
    ConditionManager.sameOutside_run hundeclared status.conditions hopening
      (set_of_mem_entries hset) marks_of_mem_entries
  have hhappy : ¬ aside reader.conditions.set.happy := by
    rw [hreader]
    exact fun haside => hundeclared _ haside List.mem_cons_self
  rw [map_step_entries, ownSteps_entries, ← hrun, ← hrun] at hsame
  exact hsame.findCondition?_eq hhappy

end SourceStep

/-- Let some types be set aside that a set does not declare.  Behind the first step of a run under the
set, which may initialize the conditions, steps that mark these types are put in, with any outcomes
and times.  Then at every point of the run the conditions of all other types are the same as without
them, in every field and in the same order, if the run began with a list in order.  So the aggregate
is the same, and the resource is happy or not as without them.

A source whose conditions were initialized is as ready if calls that mark such types are made as if
they are not.  The key type is such a type under the default set. -/
theorem outside_run_eq_of_added (set : ConditionSet) (aside : ConditionType → Prop)
    [DecidablePred aside] (hundeclared : ∀ type, aside type → type ∉ set.declared)
    {initial : List Condition} (hordered : OrderedByType initial)
    {start : ConditionManager.Step} (hstart : start.manager.set = set)
    {entries : List Entry} (hset : ∀ entry ∈ entries, entry.step.manager.set = set)
    (hadded : ∀ entry ∈ entries, entry.added = true →
      ∃ type outcome, aside type ∧ entry.step.operation = .marking type outcome) :
    (∀ reached later, entries = reached ++ later →
      let informed := ConditionManager.run initial (start :: reached.map Entry.step)
      let plain := ConditionManager.run initial (start :: ownSteps reached)
      outside aside informed = outside aside plain ∧
        ∀ reader : ConditionManager, reader.set = set →
          reader.topLevel? informed = reader.topLevel? plain ∧
            reader.isHappy informed = reader.isHappy plain) ∧
    (∀ (status : KafkaSourceStatus) (opening reader : SourceManager) (steps : List SourceStep),
      opening.conditions.set = set → reader.conditions.set = set →
      (∀ step ∈ steps, step.manager.conditions.set = set) →
        let opened := opening.perform status .initializing
        reader.isReady (SourceStep.run opened steps) =
          reader.isReady (SourceStep.run opened (steps.filter fun step => !step.marksAside aside))) ∧
    SourceCondition.keyTypeCorrect ∉ SourceCondition.set.declared := by
  refine ⟨?_, ?_, by decide⟩
  · intro reached later hsplit informed plain
    subst hsplit
    have hsame : SameOutside aside informed plain :=
      ConditionManager.sameOutside_run hundeclared initial hstart
        (List.forall_mem_append.mp hset).1 (List.forall_mem_append.mp hadded).1
    refine ⟨OrderedByType.outside_eq (ConditionManager.orderedByType_run hordered)
      (ConditionManager.orderedByType_run hordered) hsame, fun reader hreader => ?_⟩
    have htop : reader.topLevel? informed = reader.topLevel? plain := by
      refine hsame.findCondition?_eq fun haside => hundeclared _ haside ?_
      rw [hreader]
      exact List.mem_cons_self
    exact ⟨htop, congrArg (Option.any Condition.isTrue) htop⟩
  · intro status opening reader steps hopening hreader hsteps opened
    exact congrArg (Option.any Condition.isTrue)
      (SourceStep.topLevel?_run_eq hundeclared status hopening hreader hsteps)

/-- The key type is found wrong between the steps of a run that marks it once itself, and in a pass that
meets all declared conditions. -/
theorem outside_run_eq_of_added_of_key_type :
    let aside (type : ConditionType) : Prop := type = SourceCondition.keyTypeCorrect
    let managerAt (second : Fin 60) : ConditionManager :=
      ⟨SourceCondition.set, ConditionManager.exampleTime second⟩
    let wrong (second : Fin 60) : ConditionManager.Step :=
      ⟨managerAt second, .markFalse SourceCondition.keyTypeCorrect "Invalid" "No such type."⟩
    let initial : List Condition := [⟨⟨"Checked"⟩, .met, .info, none, "", ""⟩]
    let start : ConditionManager.Step := ⟨managerAt 10, .initializing⟩
    let entries : List Entry :=
      [⟨wrong 20, true⟩, ⟨⟨managerAt 30, .markTrue SourceCondition.deployed⟩, false⟩,
        ⟨⟨managerAt 40, .markTrue SourceCondition.keyTypeCorrect⟩, false⟩, ⟨wrong 50, true⟩]
    let informed := ConditionManager.run initial (start :: entries.map Entry.step)
    let plain := ConditionManager.run initial (start :: ownSteps entries)
    let manager : SourceManager := ⟨managerAt 10, true⟩
    let calls : List SourceCall :=
      [.deployment ⟨none, none⟩, .keyTypeIncorrect "Invalid" "No such type.",
        .connectionEstablished, .initialOffsetCommitted, .oidcSucceeded,
        .sink ⟨none, some "http://sink", none, none⟩]
    let opened := manager.perform .empty .initializing
    informed ≠ plain ∧ outside aside informed = outside aside plain ∧
      manager.isReady (SourceStep.run opened (calls.map (.mk manager))) = true := by
  intro aside managerAt wrong initial start entries informed plain manager calls opened
  have hundeclared : ∀ type, aside type → type ∉ SourceCondition.set.declared := by
    rintro type rfl
    decide
  have hordered : OrderedByType initial := by decide
  have hstart : start.manager.set = SourceCondition.set := rfl
  have hset : ∀ entry ∈ entries, entry.step.manager.set = SourceCondition.set := by decide
  have hadded : ∀ entry ∈ entries, entry.added = true →
      ∃ type outcome, aside type ∧ entry.step.operation = .marking type outcome := by
    simp [entries, wrong, aside, ConditionManager.Operation.markFalse]
  obtain ⟨hrun, hready, -⟩ :=
    outside_run_eq_of_added SourceCondition.set aside hundeclared hordered hstart hset hadded
  refine ⟨by decide +kernel, (hrun entries [] (by simp)).1, ?_⟩
  rw [hready .empty manager manager (calls.map (.mk manager)) rfl rfl (by decide)]
  decide +kernel

end StatusRouter
