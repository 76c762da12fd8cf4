import StatusRouter.Proofs.Condition.Aggregate
import StatusRouter.Proofs.Source.Session

/-!
# Who reads readiness

A manager reads the aggregate as it stands in the status, and the aggregate was derived by the last
operation, under the set of the manager that performed it.  So once a manager has performed an
operation, what it reads agrees with its dependents.  Before that it reads what an earlier pass
left, and if the set was replaced since, that pass had other dependents in mind.

`isReady_of_run` says both of every state that a session reaches from an empty status, and
`isReady_of_replaced_set` is a source that is found ready without one of its dependents.
-/

namespace StatusRouter.SourceSession

open ConditionManager

variable {session : SourceSession} {events : List SourceEvent}

/-- The conditions of a session are settled under the set of the last operation. -/
theorem settled_of_steps {earlier : List Step} {last : Step}
    (hsteps : session.steps events = earlier ++ [last]) :
    Settled last.manager.set (session.run events).status.conditions := by
  rw [conditions_run, hsteps]
  exact settled_run

/-- If the pass under way has made a call that operates on the conditions, then the last operation is
one of its manager. -/
theorem exists_last_step {before after : List SourceEvent} {call : SourceCall}
    (hevents : events = before ++ .calling call :: after)
    (hoperates : call.operation? (session.run events).manager.availableByDefault ≠ none)
    (hafter : ∀ now, .beginning now ∉ after) :
    ∃ earlier last, session.steps events = earlier ++ [last] ∧
      last.manager = (session.run events).manager.conditions := by
  have hpass : ∀ now, .beginning now ∉ .calling call :: after := by simpa using hafter
  have hmanager : (session.run events).manager = (session.run before).manager := by
    rw [hevents, run_append]
    exact manager_run_of_no_beginning _ hpass
  -- the steps of the pass from the call on, of which the first is that of the call
  have hne : (session.run before).steps (.calling call :: after) ≠ [] := by
    obtain ⟨operation, hoperation⟩ := Option.ne_none_iff_exists'.mp (hmanager ▸ hoperates)
    simp [steps, step?, hoperation]
  obtain ⟨during, last, hlast⟩ := (List.eq_nil_or_concat _).resolve_left hne
  rw [List.concat_eq_append] at hlast
  refine ⟨session.steps before ++ during, last, ?_, ?_⟩
  · rw [hevents, steps_append, hlast, List.append_assoc]
  · rw [hmanager]
    exact manager_of_mem_steps _ hpass last (by simp [hlast])

/-- In every state that is reached from the empty status, whatever sets were put into effect:
a source whose conditions were never operated on is not ready; if the last operation was under a set
with the same aggregate, the source is found ready exactly if the dependents of that set are met; and
when the manager of the pass under way has performed an operation, the source is found ready exactly
if the dependents of its own set are met.

Nothing is said of a manager whose set has another aggregate than that of the last operation, as long
as it has performed none.  It reads a condition that the last operation did not derive. -/
theorem isReady_of_run (conditions : SourceConditions) (now : Instant)
    (events : List SourceEvent) :
    let session := start conditions now .empty
    let reached := session.run events
    let set := reached.manager.conditions.set
    (session.steps events = [] → reached.manager.isReady reached.status = false) ∧
    (∀ earlier last, session.steps events = earlier ++ [last] → last.manager.set.happy = set.happy →
      (reached.manager.isReady reached.status = true ↔
        AllMet last.manager.set reached.status.conditions)) ∧
    ∀ before call after, events = before ++ .calling call :: after →
      call.operation? reached.manager.availableByDefault ≠ none → (∀ now, .beginning now ∉ after) →
      (reached.manager.isReady reached.status = true ↔ AllMet set reached.status.conditions) := by
  intro session reached set
  refine ⟨?_, ?_, ?_⟩
  · intro hnone
    have hempty : reached.status.conditions = [] := by
      rw [conditions_run, hnone]
      rfl
    rw [SourceManager.isReady_eq_isHappy, hempty]
    rfl
  · intro earlier last hsteps hhappy
    exact (settled_of_steps hsteps).isHappy_iff hhappy.symm
  · intro before call after hevents hoperates hafter
    obtain ⟨earlier, last, hsteps, hmanager⟩ := exists_last_step hevents hoperates hafter
    have hset : last.manager.set = set := congrArg ConditionManager.set hmanager
    rw [← hset]
    exact (settled_of_steps hsteps).isHappy_iff (congrArg ConditionSet.happy hset.symm)

/-- A source is found ready when a pass begins, although a set was put into effect since the last
pass that asks for one condition more, and the source does not have it. -/
theorem isReady_of_replaced_set :
    let wide : ConditionSet := .living [SourceCondition.sinkProvided, SourceCondition.deployed]
    let reached :=
      (start ⟨⟨.living [SourceCondition.sinkProvided]⟩, false⟩ (exampleTime 10) .empty).run
        [.calling (.sink ⟨none, some "http://sink", none, none⟩), .replacing wide,
          .beginning (exampleTime 20)]
    reached.manager.conditions.set = wide ∧
      ¬ (reached.manager.isReady reached.status = true →
        ∀ type ∈ wide.dependents, ∃ c, findCondition? type reached.status.conditions = some c ∧
          c.status = .met) := by
  decide +kernel

/-- When the second pass of `isReady_of_replaced_set` has marked the sink again, the source is not
found ready anymore, since it is ready only with the dependent that it does not have. -/
theorem isReady_of_run_of_replaced_set :
    let wide : ConditionSet := .living [SourceCondition.sinkProvided, SourceCondition.deployed]
    let call : SourceCall := .sink ⟨none, some "http://sink", none, none⟩
    let reached :=
      (start ⟨⟨.living [SourceCondition.sinkProvided]⟩, false⟩ (exampleTime 10) .empty).run
        [.calling call, .replacing wide, .beginning (exampleTime 20), .calling call]
    findCondition? SourceCondition.deployed reached.status.conditions = none ∧
      reached.manager.isReady reached.status = false := by
  intro wide call reached
  have hnone : findCondition? SourceCondition.deployed reached.status.conditions = none := by
    decide +kernel
  have hset : reached.manager.conditions.set = wide := rfl
  obtain ⟨-, -, hown⟩ :=
    isReady_of_run ⟨⟨.living [SourceCondition.sinkProvided]⟩, false⟩ (exampleTime 10)
      [.calling call, .replacing wide, .beginning (exampleTime 20), .calling call]
  have hready : reached.manager.isReady reached.status = true ↔
      AllMet reached.manager.conditions.set reached.status.conditions :=
    hown [.calling call, .replacing wide, .beginning (exampleTime 20)] call [] rfl (by decide)
      (by simp)
  refine ⟨hnone, ?_⟩
  by_contra hfound
  have hmet : AllMet wide reached.status.conditions :=
    hset ▸ hready.mp (Bool.not_eq_false _ ▸ hfound)
  obtain ⟨c, hc, -⟩ := hmet SourceCondition.deployed (by decide)
  rw [hnone] at hc
  cases hc

end StatusRouter.SourceSession
