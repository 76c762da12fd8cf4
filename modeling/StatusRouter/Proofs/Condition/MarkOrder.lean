import StatusRouter.Proofs.Condition.Aggregate
import StatusRouter.Proofs.Condition.Extension
import StatusRouter.Proofs.Interleaving

/-!
# Marks of different types commute

In one pass, that is under one manager, the marks of different types may be made in any order, as
long as those of each type keep theirs: the lists that come out are equal but for the time of the
aggregate (`map_withoutTimeOf_markAll`).  That time may tell the order, since the aggregate is derived
after every mark and its status may change on the way and change back.

Two facts lie behind this.  Under the types other than the aggregate a list shows only what the marks
of the type left there, so two orders show the same.  Then both lists are settled with the same
reports of the dependents, so the aggregate says the same.  And lists that are in order, with one
condition a type, are equal if they show the same under every type: nothing is left that the place of
a new condition could depend on.
-/

namespace StatusRouter

/-- A condition, but for its time if it is of a type. -/
def Condition.withoutTimeOf (type : ConditionType) (c : Condition) : Condition :=
  if c.type = type then { c with lastTransitionTime := none } else c

section

variable {type other : ConditionType} {first second conditions : List Condition}

@[simp] theorem Condition.type_withoutTimeOf (c : Condition) :
    (c.withoutTimeOf type).type = c.type := by
  unfold withoutTimeOf
  split <;> rfl

theorem findCondition?_map_withoutTimeOf :
    findCondition? other (conditions.map (Condition.withoutTimeOf type)) =
      (findCondition? other conditions).map (Condition.withoutTimeOf type) := by
  induction conditions with
  | nil => rfl
  | cons c rest ih =>
      rw [List.map_cons, findCondition?_cons, findCondition?_cons, ih,
        Condition.type_withoutTimeOf]
      split <;> rfl

theorem StrictlyOrderedByType.map_withoutTimeOf (h : StrictlyOrderedByType conditions) :
    StrictlyOrderedByType (conditions.map (Condition.withoutTimeOf type)) := by
  unfold StrictlyOrderedByType at h ⊢
  rw [List.pairwise_map]
  simpa only [Condition.type_withoutTimeOf] using h

theorem StrictlyOrderedByType.nodup (h : StrictlyOrderedByType conditions) : conditions.Nodup :=
  h.imp fun hlt heq => ConditionType.ne_of_lt hlt (congrArg Condition.type heq)

/-- Lists in order, with one condition a type, are equal if they show the same under every type. -/
theorem StrictlyOrderedByType.eq_of_findCondition?_eq (hfirst : StrictlyOrderedByType first)
    (hsecond : StrictlyOrderedByType second)
    (h : ∀ type, findCondition? type first = findCondition? type second) : first = second := by
  have htypes := (strictlyOrderedByType_iff.mp hfirst).2
  have htypes' := (strictlyOrderedByType_iff.mp hsecond).2
  have hperm : first.Perm second := by
    rw [List.perm_ext_iff_of_nodup hfirst.nodup hsecond.nodup]
    intro c
    constructor
    · intro hc
      exact List.mem_of_find?_eq_some
        ((h c.type).symm.trans (ConditionManager.findCondition?_of_mem htypes hc))
    · intro hc
      exact List.mem_of_find?_eq_some
        ((h c.type).trans (ConditionManager.findCondition?_of_mem htypes' hc))
  -- no two conditions are each in front of the other
  exact List.Perm.eq_of_pairwise (fun c d _ _ hcd hdc => absurd hdc (String.lt_asymm hcd)) hfirst
    hsecond hperm

end

namespace ConditionManager

variable {manager : ConditionManager} {set : ConditionSet} {type : ConditionType}
  {conditions before after : List Condition} {first second marks : List (ConditionType × Outcome)}

/-- Lists that are settled on the same reports have the same aggregate, but for its time. -/
theorem Settled.map_withoutTimeOf_eq (hbefore : Settled set before) (hafter : Settled set after)
    (hreports : ∀ type ∈ set.dependents, reported before type = reported after type) :
    (findCondition? set.happy before).map (Condition.withoutTimeOf set.happy) =
      (findCondition? set.happy after).map (Condition.withoutTimeOf set.happy) := by
  obtain ⟨c, hc, houtcome, hseverity, -⟩ := hbefore
  obtain ⟨d, hd, houtcome', hseverity', -⟩ := hafter
  have hctype : c.type = set.happy := type_of_findCondition? hc
  have hdtype : d.type = set.happy := type_of_findCondition? hd
  have hsame : c.outcome = d.outcome := by
    rw [houtcome, houtcome', List.map_congr_left hreports]
  obtain ⟨hstatus, hreason, hmessage⟩ :
      c.status = d.status ∧ c.reason = d.reason ∧ c.message = d.message := by
    simpa [Condition.outcome] using hsame
  rw [hc, hd, Option.map_some, Option.map_some, Condition.withoutTimeOf, Condition.withoutTimeOf,
    if_pos hctype, if_pos hdtype, hctype, hdtype, hseverity, hseverity', hstatus, hreason, hmessage]

/-- Makes marks one after another. -/
def markAll (manager : ConditionManager) (conditions : List Condition)
    (marks : List (ConditionType × Outcome)) : List Condition :=
  manager.performAll conditions (marks.map fun mark => .marking mark.1 mark.2)

/-- The type that a mark is of. -/
def markedType? (mark : ConditionType × Outcome) : Option ConditionType := some mark.1

theorem markAll_eq_foldl :
    manager.markAll conditions marks =
      marks.foldl (fun conditions mark => manager.mark mark.1 mark.2 conditions) conditions := by
  rw [markAll, performAll, List.foldl_map]
  rfl

theorem settled_markAll (hne : marks ≠ []) :
    Settled manager.set (manager.markAll conditions marks) := by
  rw [markAll, performAll_eq_run]
  refine settled_run_of_ne_nil (fun step hstep => ?_) (by simpa using hne)
  obtain ⟨operation, -, rfl⟩ := List.mem_map.mp hstep
  rfl

theorem strictlyOrderedByType_markAll (h : StrictlyOrderedByType conditions) :
    StrictlyOrderedByType (manager.markAll conditions marks) := by
  rw [markAll, performAll_eq_run]
  exact strictlyOrderedByType_run h

/-- What marks leave under a type other than the aggregate is left by the marks of the type. -/
theorem findCondition?_markAll_strand (htype : type ≠ manager.set.happy) :
    findCondition? type (manager.markAll conditions marks) =
      findCondition? type (manager.markAll conditions (strand markedType? type marks)) := by
  rw [markAll_eq_foldl, markAll_eq_foldl]
  refine foldl_strand (findCondition? type)
    (fun conditions (mark : ConditionType × Outcome) => manager.mark mark.1 mark.2 conditions)
    ?_ ?_ rfl
  · intro conditions others mark hmark hsame
    have hown : type = mark.1 := (Option.some.inj hmark).symm
    rw [findCondition?_mark manager htype, findCondition?_mark manager htype, if_pos hown,
      if_pos hown, written, written, ← hown, hsame]
  · intro conditions mark hmark
    have hother : type ≠ mark.1 := fun heq => hmark (congrArg some heq.symm)
    rw [findCondition?_mark manager htype, if_neg hother]

theorem findCondition?_markAll_congr (htype : type ≠ manager.set.happy)
    (hstrands : ∀ type, strand markedType? type first = strand markedType? type second) :
    findCondition? type (manager.markAll conditions first) =
      findCondition? type (manager.markAll conditions second) :=
  calc findCondition? type (manager.markAll conditions first)
      = findCondition? type (manager.markAll conditions (strand markedType? type first)) :=
        findCondition?_markAll_strand htype
    _ = findCondition? type (manager.markAll conditions (strand markedType? type second)) := by
        rw [hstrands type]
    _ = findCondition? type (manager.markAll conditions second) :=
        (findCondition?_markAll_strand htype).symm

/-- Marks that are made in other orders show the same under every type, but for the time of the
aggregate. -/
theorem findCondition?_map_markAll
    (hstrands : ∀ type, strand markedType? type first = strand markedType? type second)
    (type : ConditionType) :
    (findCondition? type (manager.markAll conditions first)).map
        (Condition.withoutTimeOf manager.set.happy) =
      (findCondition? type (manager.markAll conditions second)).map
        (Condition.withoutTimeOf manager.set.happy) := by
  by_cases htype : type = manager.set.happy
  · -- the aggregate is derived from the dependents, if there is any mark at all
    have hperm : first.Perm second :=
      perm_of_strand_eq markedType? (fun mark _ => Option.some_ne_none mark.1) hstrands
    subst htype
    by_cases hempty : first = []
    · rw [hempty] at hperm ⊢
      rw [hperm.nil_eq]
    · have hsecond : second ≠ [] := fun hnil => hempty (hnil ▸ hperm).eq_nil
      refine (settled_markAll hempty).map_withoutTimeOf_eq (settled_markAll hsecond) ?_
      intro dependent hdependent
      have hne : dependent ≠ manager.set.happy := fun heq =>
        manager.set.happy_notMem (heq ▸ hdependent)
      rw [reported, reported, findCondition?_markAll_congr hne hstrands]
  · rw [findCondition?_markAll_congr htype hstrands]

/-- On a list in order, with one condition a type, the marks of a pass may be made in any order that
leaves the order of those of each type: but for the time of the aggregate, the list comes out the
same, with the same conditions in the same places and the same in every field. -/
theorem map_withoutTimeOf_markAll (manager : ConditionManager) {conditions : List Condition}
    (hordered : StrictlyOrderedByType conditions) {first second : List (ConditionType × Outcome)}
    (hstrands : ∀ type, strand markedType? type first = strand markedType? type second) :
    (manager.markAll conditions first).map (Condition.withoutTimeOf manager.set.happy) =
      (manager.markAll conditions second).map (Condition.withoutTimeOf manager.set.happy) := by
  have hfirst : StrictlyOrderedByType (manager.markAll conditions first) :=
    strictlyOrderedByType_markAll hordered
  have hsecond : StrictlyOrderedByType (manager.markAll conditions second) :=
    strictlyOrderedByType_markAll hordered
  refine hfirst.map_withoutTimeOf.eq_of_findCondition?_eq hsecond.map_withoutTimeOf fun type => ?_
  rw [findCondition?_map_withoutTimeOf, findCondition?_map_withoutTimeOf,
    findCondition?_map_markAll hstrands]

/-- The first dependent is broken and the second is met.  Marking each with what the other was lets
the aggregate be met on the way in one order and not in the other, and only its time tells. -/
theorem map_withoutTimeOf_markAll_of_two_orders :
    let conditionAt (name : String) (status : ConditionStatus) : Condition :=
      ⟨⟨name⟩, status, .error, some (exampleTime 10), "", ""⟩
    let conditions := [conditionAt "First" .unmet, conditionAt "Ready" .unmet,
      conditionAt "Second" .met]
    let manager : ConditionManager := ⟨.living [⟨"First"⟩, ⟨"Second"⟩], exampleTime 20⟩
    let repair : ConditionType × Outcome := (⟨"First"⟩, .met)
    let breaking : ConditionType × Outcome := (⟨"Second"⟩, ⟨.unmet, "", ""⟩)
    let timeOf (conditions : List Condition) : Option Instant :=
      (findCondition? .ready conditions).bind Condition.lastTransitionTime
    StrictlyOrderedByType conditions ∧
      timeOf (manager.markAll conditions [repair, breaking]) = some (exampleTime 20) ∧
      timeOf (manager.markAll conditions [breaking, repair]) = some (exampleTime 10) ∧
      (manager.markAll conditions [repair, breaking]).map (Condition.withoutTimeOf .ready) =
        (manager.markAll conditions [breaking, repair]).map (Condition.withoutTimeOf .ready) := by
  intro conditionAt conditions manager repair breaking timeOf
  have hordered : StrictlyOrderedByType conditions := by decide
  have hstrands : ∀ type, strand markedType? type [repair, breaking] =
      strand markedType? type [breaking, repair] :=
    fun type => strand_eq_of_perm (.swap breaking repair []) (by decide)
  exact ⟨hordered, by decide +kernel, by decide +kernel,
    map_withoutTimeOf_markAll manager hordered hstrands⟩

end ConditionManager

end StatusRouter
