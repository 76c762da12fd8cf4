import StatusRouter.Proofs.Condition.Operation

/-!
# The aggregate agrees with the dependents

The reference is `Outcome.combine`: of the outcomes of the dependents, in order of declaration, the
first that is unknown counts; if there is none, the first that is not met; else all are met.  A
dependent without a condition is reported as unknown, without words.

After every step of every run the aggregate says what the reference makes of the list as it then
stands.  Deriving the aggregate writes into the very list it reads, but the aggregate is no dependent
of its own, so the write is not seen by the dependents (`map_reported_setCondition`).

A list whose aggregate is recorded with what the dependents come to is *settled*.  Every operation
ends on a settled list, deriving the aggregate of a settled list anew changes nothing, and so the
only trace of marking the aggregate itself is its time.
-/

namespace StatusRouter

/-- The outcome that several come to: the first one that is unknown; if there is none, the first one
that is not met; else met. -/
def Outcome.combine (outcomes : List Outcome) : Outcome :=
  ((outcomes.find? fun outcome => outcome.status = .unknown).or
    (outcomes.find? fun outcome => outcome.status = .unmet)).getD .met

/-- Several outcomes come to one of them that is not met, or to met if all of them are met. -/
theorem Outcome.combine_cases (outcomes : List Outcome) :
    (combine outcomes ∈ outcomes ∧ (combine outcomes).status ≠ .met) ∨
      (combine outcomes = .met ∧ ∀ outcome ∈ outcomes, outcome.status = .met) := by
  unfold combine
  cases hunknown : outcomes.find? fun outcome => outcome.status = .unknown with
  | some outcome =>
      have hstatus : outcome.status = .unknown := by simpa using List.find?_some hunknown
      exact Or.inl ⟨List.mem_of_find?_eq_some hunknown, by simp [hstatus]⟩
  | none =>
      cases hunmet : outcomes.find? fun outcome => outcome.status = .unmet with
      | some outcome =>
          have hstatus : outcome.status = .unmet := by simpa using List.find?_some hunmet
          exact Or.inl ⟨List.mem_of_find?_eq_some hunmet, by simp [hstatus]⟩
      | none =>
          refine Or.inr ⟨rfl, fun outcome hmem => ?_⟩
          have hnotUnknown := List.find?_eq_none.mp hunknown outcome hmem
          have hnotUnmet := List.find?_eq_none.mp hunmet outcome hmem
          cases hstatus : outcome.status with
          | met => rfl
          | unmet => simp [hstatus] at hnotUnmet
          | unknown => simp [hstatus] at hnotUnknown

/-- The outcomes come to met exactly if all of them are met. -/
theorem Outcome.status_combine_eq_met_iff {outcomes : List Outcome} :
    (combine outcomes).status = .met ↔ ∀ outcome ∈ outcomes, outcome.status = .met := by
  rcases combine_cases outcomes with ⟨hmem, hstatus⟩ | ⟨hmet, hall⟩
  · exact iff_of_false hstatus fun hall => hstatus (hall _ hmem)
  · exact iff_of_true (congrArg Outcome.status hmet) hall

/-- What a list says of a type: the outcome of its first condition, and unknown if there is none. -/
def reported (conditions : List Condition) (type : ConditionType) : Outcome :=
  ((findCondition? type conditions).map Condition.outcome).getD .unknown

theorem status_reported_eq_met_iff {type : ConditionType} {conditions : List Condition} :
    (reported conditions type).status = .met ↔
      ∃ c, findCondition? type conditions = some c ∧ c.status = .met := by
  unfold reported
  cases findCondition? type conditions <;> simp [Outcome.unknown, Condition.outcome]

namespace ConditionManager

variable (manager : ConditionManager) {type : ConditionType} {outcome : Outcome}
  {conditions : List Condition}

theorem aggregate_eq_combine :
    manager.aggregate conditions =
      .combine (manager.set.dependents.map (reported conditions)) := by
  simp only [aggregate, Outcome.combine, List.find?_eq_findSome?_guard, List.findSome?_map]
  -- both searches ask the same of a type on the two sides
  congr 2 <;>
    refine congrArg (List.findSome? · manager.set.dependents) (funext fun type => ?_) <;>
    cases hfind : findCondition? type conditions <;>
    simp [reported, hfind, Option.guard, Outcome.unknown, Condition.isUnknown, Condition.isFalse,
      Condition.outcome]

/-- The dependents do not see a write of the aggregate. -/
theorem map_reported_setCondition :
    manager.set.dependents.map
        (reported (manager.setCondition manager.set.happy outcome conditions)) =
      manager.set.dependents.map (reported conditions) := by
  refine List.map_congr_left fun type htype => ?_
  have hne : type ≠ manager.set.happy := fun heq => manager.set.happy_notMem (heq ▸ htype)
  rw [reported, findCondition?_setCondition, if_neg hne, reported]

/-! ## Settled lists -/

/-- The aggregate of a list is recorded with what the dependents come to. -/
def Settled (set : ConditionSet) (conditions : List Condition) : Prop :=
  Recorded set set.happy (.combine (set.dependents.map (reported conditions))) conditions

theorem settled_recompute : Settled manager.set (manager.recompute conditions) := by
  unfold Settled
  rw [recompute, map_reported_setCondition, aggregate_eq_combine]
  exact manager.recorded_setCondition

theorem settled_perform (operation : Operation) :
    Settled manager.set (manager.perform conditions operation) := by
  cases operation with
  | initializing => exact manager.settled_recompute
  | marking type outcome => exact manager.settled_recompute

variable {manager}

theorem Settled.recompute_eq_self (h : Settled manager.set conditions) :
    manager.recompute conditions = conditions := by
  rw [recompute, aggregate_eq_combine]
  exact Recorded.setCondition_eq_self h

/-- On a settled list, marking a type with what is recorded of it changes nothing. -/
theorem Settled.mark_eq_self (h : Settled manager.set conditions)
    (hrecorded : Recorded manager.set type outcome conditions) :
    manager.mark type outcome conditions = conditions := by
  rw [mark, hrecorded.setCondition_eq_self, h.recompute_eq_self]

/-- On a settled list with all declared conditions, initializing changes nothing. -/
theorem Settled.initializeConditions_eq_self (h : Settled manager.set conditions)
    (hmissing : manager.missing conditions = []) :
    manager.initializeConditions conditions = conditions := by
  rw [initializeConditions_eq, complete, hmissing]
  exact h.recompute_eq_self

/-- All dependents of a set are there and are met. -/
def AllMet (set : ConditionSet) (conditions : List Condition) : Prop :=
  ∀ type ∈ set.dependents, ∃ c, findCondition? type conditions = some c ∧ c.status = .met

theorem status_combine_reported_eq_met_iff {set : ConditionSet} :
    (Outcome.combine (set.dependents.map (reported conditions))).status = .met ↔
      AllMet set conditions := by
  rw [Outcome.status_combine_eq_met_iff, List.forall_mem_map]
  simp only [status_reported_eq_met_iff, AllMet]

/-- Who reads the aggregate of a settled list finds it met exactly if all dependents are met, of the
set under which the list is settled. -/
theorem Settled.isHappy_iff {set : ConditionSet} (h : Settled set conditions)
    (hhappy : manager.set.happy = set.happy) :
    manager.isHappy conditions = true ↔ AllMet set conditions := by
  obtain ⟨c, hc, houtcome, -⟩ := h
  have hstatus : c.status = (Outcome.combine (set.dependents.map (reported conditions))).status :=
    congrArg Outcome.status houtcome
  rw [← status_combine_reported_eq_met_iff, ← hstatus, isHappy, topLevel?, hhappy, hc]
  simp [Condition.isTrue]

/-! ## Every run -/

theorem settled_run {initial : List Condition} {earlier : List Step} {last : Step} :
    Settled last.manager.set (run initial (earlier ++ [last])) := by
  rw [run_append_singleton]
  exact last.manager.settled_perform last.operation

/-- The list after a run of managers of one set is settled, if there was a step. -/
theorem settled_run_of_ne_nil {set : ConditionSet} {initial : List Condition} {steps : List Step}
    (hset : ∀ step ∈ steps, step.manager.set = set) (hne : steps ≠ []) :
    Settled set (run initial steps) := by
  obtain ⟨earlier, last, hsplit⟩ := steps.eq_nil_or_concat.resolve_left hne
  rw [List.concat_eq_append] at hsplit
  have hlast : last.manager.set = set := hset last (by simp [hsplit])
  rw [hsplit, ← hlast]
  exact settled_run

/-- After a step of any run, whatever the steps before, the list has an aggregate, and it says what
the dependents come to; so it is met exactly if every dependent is there and is met. -/
theorem aggregate_of_run (set : ConditionSet) (initial : List Condition) (earlier : List Step)
    (now : Instant) (operation : Operation) :
    let after := run initial (earlier ++ [⟨⟨set, now⟩, operation⟩])
    ∃ c, findCondition? set.happy after = some c ∧
      c.outcome = .combine (set.dependents.map (reported after)) ∧
      (c.status = .met ↔
        ∀ type ∈ set.dependents, ∃ d, findCondition? type after = some d ∧ d.status = .met) := by
  intro after
  have hsettled : Settled set after := by
    simp only [after, run_append_singleton]
    exact settled_perform ⟨set, now⟩ operation
  obtain ⟨c, hc, houtcome, -⟩ := hsettled
  refine ⟨c, hc, houtcome, ?_⟩
  have hstatus : c.status = (Outcome.combine (set.dependents.map (reported after))).status :=
    congrArg Outcome.status houtcome
  rw [hstatus, Outcome.status_combine_eq_met_iff]
  simp [status_reported_eq_met_iff]

/-! ## Marking the aggregate -/

theorem reviseFirst_append {front back : List Condition} {c : Condition} (hc : c.type = type)
    (hfront : ∀ d ∈ front, d.type ≠ type) :
    manager.reviseFirst type outcome (front ++ c :: back) =
      front ++ manager.revise outcome c :: back := by
  induction front with
  | nil => rw [List.nil_append, reviseFirst, if_pos hc, List.nil_append]
  | cons d front ih =>
      obtain ⟨hd, hrest⟩ := List.forall_mem_cons.mp hfront
      rw [List.cons_append, reviseFirst, if_neg hd, ih hrest, List.cons_append]

/-- A write revises the first condition of its type and leaves the others. -/
theorem setCondition_append {front back : List Condition} {c : Condition} (hc : c.type = type)
    (hfront : ∀ d ∈ front, d.type ≠ type) :
    manager.setCondition type outcome (front ++ c :: back) =
      front ++ manager.revise outcome c :: back := by
  have hany : ((front ++ c :: back).any fun d => d.type = type) = true :=
    List.any_eq_true.mpr ⟨c, by simp, by simpa using hc⟩
  rw [setCondition, if_pos hany, reviseFirst_append hc hfront]

/-- A revision that is taken back leaves its time, if it changed the status. -/
theorem revise_revise {c : Condition} (hseverity : c.severity = manager.set.severity c.type)
    (htime : c.lastTransitionTime ≠ none) :
    manager.revise c.outcome (manager.revise outcome c) =
      { c with
        lastTransitionTime :=
          if outcome.status = c.status then c.lastTransitionTime else some manager.now } := by
  by_cases hstatus : outcome.status = c.status
  · simp [revise, Condition.outcome, hstatus, htime, ← hseverity]
  · simp [revise, Condition.outcome, hstatus, Ne.symm hstatus, ← hseverity]

/-- Marking the aggregate of a settled list leaves all but the time of the aggregate. -/
theorem Settled.exists_mark_eq (h : Settled manager.set conditions) (outcome : Outcome) :
    ∃ front c back, conditions = front ++ c :: back ∧ c.type = manager.set.happy ∧
      (∀ d ∈ front, d.type ≠ manager.set.happy) ∧
      manager.mark manager.set.happy outcome conditions = front ++ { c with
        lastTransitionTime :=
          if outcome.status = c.status then c.lastTransitionTime else some manager.now } :: back := by
  obtain ⟨c, hfind, houtcome, hseverity, htime⟩ := h
  obtain ⟨-, front, back, hsplit, hskipped⟩ := List.find?_eq_some_iff_append.mp hfind
  have htype : c.type = manager.set.happy := type_of_findCondition? hfind
  have hfront : ∀ d ∈ front, d.type ≠ manager.set.happy := by simpa using hskipped
  refine ⟨front, c, back, hsplit, htype, hfront, ?_⟩
  -- the second write takes back the first, since the dependents do not see the aggregate
  have haggregate :
      manager.aggregate (manager.setCondition manager.set.happy outcome conditions) = c.outcome := by
    rw [aggregate_eq_combine, map_reported_setCondition, houtcome]
  have hrevised : (manager.revise outcome c).type = manager.set.happy := htype
  rw [mark, recompute, haggregate, hsplit, setCondition_append htype hfront,
    setCondition_append hrevised hfront, revise_revise (htype ▸ hseverity) htime]

/-- Marking the aggregate of a list that an operation was performed on leaves all conditions as they
are, but for the time of the aggregate, which moves if the mark has another status.  So nothing
changes exactly if the mark has the status of the aggregate, or the aggregate has the time of the
manager already. -/
theorem mark_aggregate (set : ConditionSet) (initial : List Condition) (earlier : List Step)
    (last now : Instant) (operation : Operation) (outcome : Outcome) :
    let before := run initial (earlier ++ [⟨⟨set, last⟩, operation⟩])
    let after := (ConditionManager.mk set now).mark set.happy outcome before
    ∃ front c back, before = front ++ c :: back ∧ c.type = set.happy ∧
      (∀ d ∈ front, d.type ≠ set.happy) ∧
      after = front ++ { c with
        lastTransitionTime :=
          if outcome.status = c.status then c.lastTransitionTime else some now } :: back ∧
      (after = before ↔ outcome.status = c.status ∨ c.lastTransitionTime = some now) := by
  intro before after
  have hsettled : Settled (ConditionManager.mk set now).set before := by
    simp only [before, run_append_singleton]
    exact settled_perform ⟨set, last⟩ operation
  obtain ⟨front, c, back, hbefore, htype, hfront, hafter⟩ := hsettled.exists_mark_eq outcome
  refine ⟨front, c, back, hbefore, htype, hfront, hafter, ?_⟩
  rw [show after = _ from hafter, hbefore, List.append_cancel_left_eq, List.cons.injEq]
  obtain ⟨type, status, severity, time, reason, message⟩ := c
  by_cases hstatus : outcome.status = status
  · simp [hstatus]
  · simp [hstatus, eq_comm]

/-- Marking the aggregate as met, ten seconds after it was found to be unknown, moves its time. -/
theorem mark_aggregate_moves_time :
    let set := ConditionSet.living [⟨"First"⟩]
    let before := run [] [⟨⟨set, exampleTime 10⟩, .initializing⟩]
    (ConditionManager.mk set (exampleTime 20)).mark set.happy .met before ≠ before := by
  decide +kernel

end ConditionManager

end StatusRouter
