import StatusRouter.Proofs.Condition.Aggregate
import StatusRouter.Proofs.Condition.ByType

/-!
# Undeclared conditions

A condition that the set does not declare is there to inform.  Marking it writes twice into the list:
the condition is set, and the aggregate is derived anew, with the timestamp of the mark.  On a settled
list the second write changes nothing, and the first one is not seen under any other type.  So marks
of undeclared types may be put into a run anywhere behind its first step, and the conditions of all
other types are what they are without them (`sameOutside_run`).

Where a new condition is put depends on all that are there, so the lists of the two runs are compared
by their conditions of each type.  If they are in order, they are the same list outside the types that
are set aside (`OrderedByType.outside_eq`).
-/

namespace StatusRouter

/-- The conditions whose types are not set aside. -/
def outside (aside : ConditionType → Prop) [DecidablePred aside] (conditions : List Condition) :
    List Condition :=
  conditions.filter fun c => ¬ aside c.type

/-- Lists with the same conditions of every type that is not set aside. -/
def SameOutside (aside : ConditionType → Prop) (first second : List Condition) : Prop :=
  ∀ type, ¬ aside type → ofType type first = ofType type second

section

variable {aside : ConditionType → Prop} {first second conditions : List Condition}
  {type : ConditionType}

theorem ofType_outside [DecidablePred aside] :
    ofType type (outside aside conditions) = if aside type then [] else ofType type conditions := by
  unfold ofType outside
  rw [List.filter_filter]
  split
  · rename_i haside
    refine List.filter_eq_nil_iff.mpr fun c _ => ?_
    simp only [Bool.and_eq_true, decide_eq_true_eq, not_and, not_not]
    rintro rfl
    exact haside
  · rename_i haside
    refine List.filter_congr fun c _ => ?_
    by_cases hc : c.type = type
    · simp [hc, haside]
    · simp [hc]

theorem OrderedByType.outside_eq [DecidablePred aside] (hfirst : OrderedByType first)
    (hsecond : OrderedByType second) (h : SameOutside aside first second) :
    outside aside first = outside aside second := by
  refine OrderedByType.eq_of_ofType_eq (hfirst.sublist List.filter_sublist)
    (hsecond.sublist List.filter_sublist) fun type => ?_
  rw [ofType_outside, ofType_outside]
  by_cases haside : aside type
  · rw [if_pos haside, if_pos haside]
  · rw [if_neg haside, if_neg haside, h type haside]

end

/-! ## The same operation on both lists -/

namespace SameOutside

open ConditionManager

variable {aside : ConditionType → Prop} {manager : ConditionManager}
  {first second : List Condition} {type : ConditionType} {outcome : Outcome}

theorem findCondition?_eq (h : SameOutside aside first second) (htype : ¬ aside type) :
    findCondition? type first = findCondition? type second := by
  rw [← head?_ofType, h type htype, head?_ofType]

theorem setCondition (h : SameOutside aside first second) :
    SameOutside aside (manager.setCondition type outcome first)
      (manager.setCondition type outcome second) := by
  intro other hother
  by_cases heq : other = type
  · subst heq
    rw [ofType_setCondition_self, ofType_setCondition_self, h other hother]
  · rw [ofType_setCondition_of_ne heq, ofType_setCondition_of_ne heq, h other hother]

theorem complete (h : SameOutside aside first second) :
    SameOutside aside (manager.complete first) (manager.complete second) := by
  intro other hother
  rw [ofType_complete, ofType_complete, h.findCondition?_eq hother, h other hother]

/-- The aggregate asks for declared types only. -/
theorem recompute (h : SameOutside aside first second)
    (hdeclared : ∀ type ∈ manager.set.declared, ¬ aside type) :
    SameOutside aside (manager.recompute first) (manager.recompute second) := by
  have hreported : manager.set.dependents.map (reported first) =
      manager.set.dependents.map (reported second) := by
    refine List.map_congr_left fun type htype => ?_
    rw [reported, reported,
      h.findCondition?_eq (hdeclared type (List.mem_cons_of_mem manager.set.happy htype))]
  rw [ConditionManager.recompute, ConditionManager.recompute, aggregate_eq_combine,
    aggregate_eq_combine, hreported]
  exact h.setCondition

theorem perform (h : SameOutside aside first second)
    (hdeclared : ∀ type ∈ manager.set.declared, ¬ aside type) (operation : Operation) :
    SameOutside aside (manager.perform first operation) (manager.perform second operation) := by
  cases operation with
  | initializing => exact h.complete.recompute hdeclared
  | marking type outcome => exact h.setCondition.recompute hdeclared

end SameOutside

/-! ## A mark on one of the lists -/

namespace ConditionManager

variable {aside : ConditionType → Prop} {manager : ConditionManager} {set : ConditionSet}
  {conditions : List Condition} {type : ConditionType} {outcome : Outcome}

/-- A write of an undeclared type leaves a settled list settled. -/
theorem Settled.setCondition (h : Settled manager.set conditions)
    (htype : type ∉ manager.set.declared) :
    Settled manager.set (manager.setCondition type outcome conditions) := by
  have hfind : ∀ other ∈ manager.set.declared,
      findCondition? other (manager.setCondition type outcome conditions) =
        findCondition? other conditions := by
    intro other hother
    have hne : other ≠ type := fun heq => htype (heq ▸ hother)
    rw [findCondition?_setCondition, if_neg hne]
  have hreported : manager.set.dependents.map
        (reported (manager.setCondition type outcome conditions)) =
      manager.set.dependents.map (reported conditions) := by
    refine List.map_congr_left fun other hother => ?_
    rw [reported, reported, hfind other (List.mem_cons_of_mem manager.set.happy hother)]
  rw [Settled, hreported]
  exact Recorded.congr h (hfind manager.set.happy List.mem_cons_self)

/-- Marking an undeclared type on a settled list is seen under this type alone. -/
theorem Settled.sameOutside_mark (h : Settled manager.set conditions)
    (htype : type ∉ manager.set.declared) (haside : aside type) :
    SameOutside aside (manager.mark type outcome conditions) conditions := by
  intro other hother
  have hne : other ≠ type := fun heq => hother (heq ▸ haside)
  rw [mark, (h.setCondition htype).recompute_eq_self, ofType_setCondition_of_ne hne]

/-! ## Runs -/

theorem orderedByType_run {steps : List Step} (h : OrderedByType conditions) :
    OrderedByType (run conditions steps) :=
  List.foldlRecOn _ _ h fun _ hbefore step _ =>
    step.manager.orderedByType_perform step.operation hbefore

/-- A step of a run that other steps are put into, or one of these. -/
structure Entry where
  step : Step
  added : Bool
  deriving DecidableEq

/-- The steps of the run without those that are put into it. -/
def ownSteps (entries : List Entry) : List Step :=
  (entries.filter fun entry => !entry.added).map Entry.step

theorem ownSteps_append_singleton (entries : List Entry) (entry : Entry) :
    ownSteps (entries ++ [entry]) =
      ownSteps entries ++ if entry.added then [] else [entry.step] := by
  rw [ownSteps, List.filter_append, List.map_append, ownSteps]
  cases hadded : entry.added <;> simp [hadded]

/-- Marks of undeclared types that are put in behind the first step change the conditions of no other
type. -/
theorem sameOutside_run (hundeclared : ∀ type, aside type → type ∉ set.declared)
    (initial : List Condition) {start : Step} (hstart : start.manager.set = set)
    {entries : List Entry} (hset : ∀ entry ∈ entries, entry.step.manager.set = set)
    (hadded : ∀ entry ∈ entries, entry.added = true →
      ∃ type outcome, aside type ∧ entry.step.operation = .marking type outcome) :
    SameOutside aside (run initial (start :: entries.map Entry.step))
      (run initial (start :: ownSteps entries)) := by
  induction entries using List.reverseRecOn with
  | nil => exact fun _ _ => rfl
  | append_singleton entries last ih =>
      obtain ⟨hsetEarlier, hsetLast⟩ := List.forall_mem_append.mp hset
      obtain ⟨haddedEarlier, haddedLast⟩ := List.forall_mem_append.mp hadded
      have hsame := ih hsetEarlier haddedEarlier
      have hmanager : last.step.manager.set = set := hsetLast last (by simp)
      rw [List.map_append, List.map_singleton, ← List.cons_append, run_append_singleton,
        ownSteps_append_singleton]
      cases hlast : last.added with
      | true =>
          obtain ⟨type, outcome, haside, hoperation⟩ := haddedLast last (by simp) hlast
          have hsettled : Settled last.step.manager.set
              (run initial (start :: entries.map Entry.step)) := by
            rw [hmanager]
            refine settled_run_of_ne_nil ?_ (List.cons_ne_nil _ _)
            simpa [hstart] using hsetEarlier
          intro other hother
          rw [if_pos rfl, List.append_nil, ← hsame other hother, Step.perform, hoperation]
          exact hsettled.sameOutside_mark (hmanager ▸ hundeclared type haside) haside other hother
      | false =>
          rw [if_neg Bool.false_ne_true, ← List.cons_append, run_append_singleton]
          refine hsame.perform ?_ last.step.operation
          rw [hmanager]
          exact fun type htype haside => hundeclared type haside htype

end ConditionManager

end StatusRouter
