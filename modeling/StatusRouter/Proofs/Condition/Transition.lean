import StatusRouter.Proofs.Condition.Operation
import StatusRouter.Proofs.LastWord

/-!
# Transition times tell the history

A step *moves* a type if the condition of the type comes into existence across the step, or its
status changes.  What happens within the step does not count, only the conditions before and after
it.  In a run from the empty list, the time of every condition is the timestamp of the last step that
moved its type.

An operation writes twice, and initializing may write the aggregate twice, first to add it and then
to derive it.  So the rule is stated for any two lists, as `Stamped`, and shown for one write, for
the writes that add conditions, and for the derivation that ends an operation.  Only marking the
aggregate itself would break it: its two writes may change the status and change it back.
-/

namespace StatusRouter.ConditionManager

variable {manager : ConditionManager} {type : ConditionType} {outcome : Outcome} {now : Instant}
  {before between after conditions : List Condition}

/-- The time of a condition of a status after an operation, by what was found before it. -/
def timeAfter (now : Instant) (before : Option Condition) (status : ConditionStatus) :
    Option Instant :=
  match before with
  | none => some now
  | some c => if c.status = status then c.lastTransitionTime else some now

@[simp] theorem timeAfter_none (status : ConditionStatus) :
    timeAfter now none status = some now := rfl

@[simp] theorem timeAfter_some (c : Condition) (status : ConditionStatus) :
    timeAfter now (some c) status =
      if c.status = status then c.lastTransitionTime else some now := rfl

/-- The times of a list are those of the list before, moved to a timestamp where a condition is new
or has another status. -/
def Stamped (now : Instant) (before after : List Condition) : Prop :=
  ∀ type c, findCondition? type after = some c →
    c.lastTransitionTime = timeAfter now (findCondition? type before) c.status

/-- All conditions that are found have a time. -/
def Dated (conditions : List Condition) : Prop :=
  ∀ type c, findCondition? type conditions = some c → c.lastTransitionTime ≠ none

theorem dated_nil : Dated [] := by
  intro type c hc
  simp at hc

theorem Stamped.dated (hbefore : Dated before) (h : Stamped now before after) : Dated after := by
  intro type c hc
  rw [h type c hc]
  cases hfind : findCondition? type before with
  | none => simp
  | some d =>
      rw [timeAfter_some]
      split
      · exact hbefore type d hfind
      · simp

/-! ## Writes and operations stamp -/

theorem stamped_setCondition (hdated : Dated conditions) :
    Stamped manager.now conditions (manager.setCondition type outcome conditions) := by
  intro other c hc
  rw [findCondition?_setCondition] at hc
  split at hc
  · rename_i hother
    obtain rfl := Option.some.inj hc
    subst hother
    unfold written
    cases hfind : findCondition? other conditions with
    | none => rfl
    | some d =>
        have htime : d.lastTransitionTime ≠ none := hdated other d hfind
        by_cases hstatus : d.status = outcome.status <;> simp [revise, hstatus, htime]
  · simp [hc]

theorem stamped_complete : Stamped manager.now conditions (manager.complete conditions) := by
  intro type c hc
  rw [findCondition?_complete] at hc
  cases hfind : findCondition? type conditions with
  | none =>
      simp only [hfind, Option.none_or, Option.ite_none_right_eq_some] at hc
      obtain ⟨-, hc⟩ := hc
      obtain rfl := Option.some.inj hc
      rfl
  | some d =>
      obtain rfl : d = c := by simpa [hfind] using hc
      simp

/-- Deriving the aggregate at the end of an operation that has stamped so far, and has not written
the aggregate unless to add it. -/
theorem stamped_recompute (hdated : Dated between)
    (hstamped : Stamped manager.now before between)
    (happy : findCondition? manager.set.happy before = none ∨
      findCondition? manager.set.happy between = findCondition? manager.set.happy before) :
    Stamped manager.now before (manager.recompute between) := by
  intro type c hc
  have hwrite : c.lastTransitionTime = timeAfter manager.now (findCondition? type between) c.status :=
    stamped_setCondition hdated type c hc
  by_cases htype : type = manager.set.happy
  · subst htype
    rcases happy with hnew | hsame
    · rw [hwrite, hnew]
      -- a condition that was added before has the timestamp already
      cases hfind : findCondition? manager.set.happy between with
      | none => rfl
      | some d =>
          have hd : d.lastTransitionTime = some manager.now := by
            rw [hstamped _ d hfind, hnew, timeAfter_none]
          simp [hd]
    · rw [hwrite, hsame]
  · rw [findCondition?_recompute manager htype] at hc
    exact hstamped type c hc

theorem stamped_perform {operation : Operation}
    (hmarked : operation.marked? ≠ some manager.set.happy) (hdated : Dated conditions) :
    Stamped manager.now conditions (manager.perform conditions operation) := by
  cases operation with
  | initializing =>
      rw [perform, initializeConditions_eq]
      refine stamped_recompute (stamped_complete.dated hdated) stamped_complete ?_
      rw [findCondition?_complete]
      cases findCondition? manager.set.happy conditions <;> simp
  | marking type outcome =>
      have hne : manager.set.happy ≠ type := fun heq => hmarked (by rw [heq]; rfl)
      have hwrite : Stamped manager.now conditions (manager.setCondition type outcome conditions) :=
        stamped_setCondition hdated
      refine stamped_recompute (hwrite.dated hdated) hwrite (Or.inr ?_)
      rw [findCondition?_setCondition, if_neg hne]

/-! ## Runs -/

/-- The status of a type, if it has a condition. -/
def status? (type : ConditionType) (conditions : List Condition) : Option ConditionStatus :=
  (findCondition? type conditions).map Condition.status

/-- Across a step, the condition of a type comes into existence or its status changes. -/
def Step.Moves (step : Step) (type : ConditionType) (before : List Condition) : Prop :=
  status? type (step.perform before) ≠ status? type before

theorem Stamped.eq_now (h : Stamped now before after) {c : Condition}
    (hc : findCondition? type after = some c) (hmoves : status? type after ≠ status? type before) :
    c.lastTransitionTime = some now := by
  rw [h type c hc]
  cases hfind : findCondition? type before with
  | none => rfl
  | some d =>
      have hne : d.status ≠ c.status := by
        intro heq
        exact hmoves (by simp [status?, hc, hfind, heq])
      rw [timeAfter_some, if_neg hne]

theorem Stamped.exists_before (h : Stamped now before after) {c : Condition}
    (hc : findCondition? type after = some c) (hkept : status? type after = status? type before) :
    ∃ d, findCondition? type before = some d ∧ c.lastTransitionTime = d.lastTransitionTime := by
  rw [status?, status?, hc, Option.map_some] at hkept
  obtain ⟨d, hd, hstatus⟩ := Option.map_eq_some_iff.mp hkept.symm
  refine ⟨d, hd, ?_⟩
  rw [h type c hc, hd, timeAfter_some, if_pos hstatus]

section

variable {steps : List Step} {last : Step}

theorem dated_run (hmarked : ∀ step ∈ steps, step.operation.marked? ≠ some step.manager.set.happy) :
    Dated (run [] steps) := by
  induction steps using List.reverseRecOn with
  | nil => exact dated_nil
  | append_singleton steps last ih =>
      obtain ⟨hearlier, hlast⟩ := List.forall_mem_append.mp hmarked
      rw [run_append_singleton]
      exact (stamped_perform (hlast last (by simp)) (ih hearlier)).dated (ih hearlier)

theorem stamped_run (hmarked : ∀ step ∈ steps ++ [last],
    step.operation.marked? ≠ some step.manager.set.happy) :
    Stamped last.manager.now (run [] steps) (run [] (steps ++ [last])) := by
  obtain ⟨hearlier, hlast⟩ := List.forall_mem_append.mp hmarked
  rw [run_append_singleton]
  exact stamped_perform (hlast last (by simp)) (dated_run hearlier)

/-- A condition that is found has the timestamp of the last step that moved its type. -/
theorem exists_last_move
    (hmarked : ∀ step ∈ steps, step.operation.marked? ≠ some step.manager.set.happy) {c : Condition}
    (hc : findCondition? type (run [] steps) = some c) :
    ∃ earlier step later, steps = earlier ++ step :: later ∧
      c.lastTransitionTime = some step.manager.now ∧ step.Moves type (run [] earlier) ∧
      ∀ between next rest, later = between ++ next :: rest →
        ¬ next.Moves type (run [] (earlier ++ step :: between)) := by
  induction steps using List.reverseRecOn generalizing c with
  | nil => simp at hc
  | append_singleton steps last ih =>
      have hstamped := stamped_run hmarked
      by_cases hmoves : last.Moves type (run [] steps)
      · refine ⟨steps, last, [], rfl, hstamped.eq_now hc ?_, hmoves, by simp⟩
        rw [run_append_singleton]
        exact hmoves
      · have hkept : status? type (run [] (steps ++ [last])) = status? type (run [] steps) := by
          rw [run_append_singleton]
          exact not_not.mp hmoves
        obtain ⟨d, hd, htime⟩ := hstamped.exists_before hc hkept
        obtain ⟨earlier, step, later, hsplit, hd', hmove, hnone⟩ :=
          ih (List.forall_mem_append.mp hmarked).1 hd
        have hlast : LastWord (fun before step => Step.Moves step type (run [] before)) steps
            earlier step later := ⟨hsplit, hmove, hnone⟩
        have hstays := hlast.append_silent hmoves
        exact ⟨earlier, step, later ++ [last], hstays.split, htime.trans hd', hstays.spoken,
          hstays.silent⟩

end

/-- In a run from the empty list that never marks the aggregate, every condition has the timestamp
of the last step across which it came into existence or its status changed; and a step across which
the status stays the same leaves the time the same.  The timestamps need not increase, and every
manager may have a set of its own. -/
theorem transition_times_of_run {steps : List Step}
    (hmarked : ∀ step ∈ steps, step.operation.marked? ≠ some step.manager.set.happy) :
    (∀ c ∈ run [] steps, ∃ earlier step later, steps = earlier ++ step :: later ∧
      c.lastTransitionTime = some step.manager.now ∧ step.Moves c.type (run [] earlier) ∧
      ∀ between next rest, later = between ++ next :: rest →
        ¬ next.Moves c.type (run [] (earlier ++ step :: between))) ∧
    ∀ earlier step later, steps = earlier ++ step :: later →
      ∀ d ∈ run [] earlier, ∀ c ∈ run [] (earlier ++ [step]), c.type = d.type →
        c.status = d.status → c.lastTransitionTime = d.lastTransitionTime := by
  refine ⟨fun c hc => exists_last_move hmarked (findCondition?_of_mem nodup_run hc), ?_⟩
  rintro earlier step later rfl d hd c hc htype hstatus
  have hfindBefore := findCondition?_of_mem nodup_run hd
  have hfindAfter := findCondition?_of_mem nodup_run hc
  have hstamped : Stamped step.manager.now (run [] earlier) (run [] (earlier ++ [step])) := by
    refine stamped_run fun other hother => hmarked other ?_
    rw [List.append_cons]
    exact List.mem_append_left later hother
  rw [hstamped _ c hfindAfter, htype, hfindBefore, timeAfter_some, if_pos hstatus.symm]

/-- A run of five managers, the third with an early timestamp.  The last step changes only the words
of the first condition, so the time of the step before it stands. -/
theorem transition_times_of_flapping_run :
    let first : ConditionType := ⟨"First"⟩
    let second : ConditionType := ⟨"Second"⟩
    let managerAt (time : Fin 60) : ConditionManager :=
      ⟨.living [first, second], exampleTime time⟩
    let steps : List Step :=
      [⟨managerAt 10, .initializing⟩, ⟨managerAt 30, .marking first .met⟩,
        ⟨managerAt 20, .marking second .met⟩, ⟨managerAt 40, .marking first ⟨.unmet, "Broken", ""⟩⟩,
        ⟨managerAt 50, .marking first ⟨.unmet, "StillBroken", ""⟩⟩]
    (∀ step ∈ steps, step.operation.marked? ≠ some step.manager.set.happy) ∧
      (run [] steps).map (fun c => (c.type.name, c.lastTransitionTime)) =
        [("First", some (exampleTime 40)), ("Ready", some (exampleTime 40)),
          ("Second", some (exampleTime 20))] ∧
      ∀ c ∈ run [] steps, ∃ earlier step later, steps = earlier ++ step :: later ∧
        c.lastTransitionTime = some step.manager.now ∧ step.Moves c.type (run [] earlier) ∧
        ∀ between next rest, later = between ++ next :: rest →
          ¬ next.Moves c.type (run [] (earlier ++ step :: between)) := by
  intro first second managerAt steps
  have hmarked : ∀ step ∈ steps, step.operation.marked? ≠ some step.manager.set.happy := by
    decide
  exact ⟨hmarked, by decide +kernel, (transition_times_of_run hmarked).1⟩

end StatusRouter.ConditionManager
