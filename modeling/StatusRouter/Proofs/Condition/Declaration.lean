import StatusRouter.Proofs.Condition.Aggregate
import StatusRouter.Proofs.Condition.ByType

/-!
# The order of declaration

Two sets with the same aggregate and the same dependents may declare the dependents in different
orders.  The order has a say in three places: a type is looked for among the declared ones, the
declared types that are missing are added one after another, and the aggregate takes the words of
the first dependent that keeps it from being met.  Only the last of these is seen.  Runs that differ
in nothing else leave the same list, but for the reason and the message of the aggregate
(`withoutWordsOf_run_eq`).

Lists in order are compared by their conditions of each type, since where a new condition is put
depends on those that were added before it.
-/

namespace StatusRouter

/-- A condition without its reason and its message. -/
def Condition.wordless (c : Condition) : Condition := { c with reason := "", message := "" }

@[simp] theorem Condition.type_wordless (c : Condition) : c.wordless.type = c.type := rfl

/-- The list without the reason and the message of its first condition of a type. -/
def withoutWordsOf (type : ConditionType) : List Condition → List Condition
  | [] => []
  | c :: rest =>
    if c.type = type then c.wordless :: rest else c :: withoutWordsOf type rest

section

variable {type other : ConditionType} {conditions : List Condition}

/-! ## Lists without the words of a type -/

@[simp] theorem withoutWordsOf_nil : withoutWordsOf type [] = [] := rfl

theorem withoutWordsOf_cons_self {c : Condition} {rest : List Condition} (h : c.type = type) :
    withoutWordsOf type (c :: rest) = c.wordless :: rest :=
  if_pos h

theorem withoutWordsOf_cons_of_ne {c : Condition} {rest : List Condition} (h : c.type ≠ type) :
    withoutWordsOf type (c :: rest) = c :: withoutWordsOf type rest :=
  if_neg h

theorem withoutWordsOf_withoutWordsOf :
    withoutWordsOf type (withoutWordsOf type conditions) = withoutWordsOf type conditions := by
  induction conditions with
  | nil => rfl
  | cons c rest ih =>
      by_cases hc : c.type = type
      · rw [withoutWordsOf_cons_self hc, withoutWordsOf_cons_self (c := c.wordless) hc]
        rfl
      · rw [withoutWordsOf_cons_of_ne hc, withoutWordsOf_cons_of_ne hc, ih]

theorem map_type_withoutWordsOf :
    (withoutWordsOf type conditions).map Condition.type = conditions.map Condition.type := by
  induction conditions with
  | nil => rfl
  | cons c rest ih =>
      unfold withoutWordsOf
      split
      · rfl
      · rw [List.map_cons, List.map_cons, ih]

theorem orderedByType_withoutWordsOf (h : OrderedByType conditions) :
    OrderedByType (withoutWordsOf type conditions) := by
  rw [orderedByType_iff] at h ⊢
  rwa [map_type_withoutWordsOf]

theorem withoutWordsOf_of_notMem (h : type ∉ conditions.map Condition.type) :
    withoutWordsOf type conditions = conditions := by
  induction conditions with
  | nil => rfl
  | cons c rest ih =>
      rw [List.map_cons, List.mem_cons, not_or] at h
      rw [withoutWordsOf, if_neg (Ne.symm h.1), ih h.2]

theorem ofType_withoutWordsOf :
    ofType other (withoutWordsOf type conditions) =
      withoutWordsOf type (ofType other conditions) := by
  induction conditions with
  | nil => rfl
  | cons c rest ih =>
      by_cases hother : c.type = other
      · subst hother
        by_cases hc : c.type = type
        · simp [withoutWordsOf, ofType_cons, hc]
        · simp [withoutWordsOf, ofType_cons, hc, ih]
      · by_cases hc : c.type = type
        · subst hc
          -- none of the others has words to lose
          have hnone : c.type ∉ (ofType other rest).map Condition.type :=
            notMem_map_type_ofType (Ne.symm hother)
          simp [withoutWordsOf, ofType_cons, hother, withoutWordsOf_of_notMem hnone]
        · simp [withoutWordsOf, ofType_cons, hother, hc, ih]

theorem ofType_withoutWordsOf_of_ne (h : other ≠ type) :
    ofType other (withoutWordsOf type conditions) = ofType other conditions := by
  rw [ofType_withoutWordsOf, withoutWordsOf_of_notMem (notMem_map_type_ofType h)]

theorem findCondition?_withoutWordsOf (h : other ≠ type) :
    findCondition? other (withoutWordsOf type conditions) = findCondition? other conditions := by
  rw [← head?_ofType, ofType_withoutWordsOf_of_ne h, head?_ofType]

end

namespace ConditionManager

variable {manager : ConditionManager} {type happy : ConditionType} {outcome given : Outcome}
  {conditions : List Condition}

/-- On conditions that are all of the written type, it does not matter whether the words are left out
before a write or behind it, nor do the words that the write itself gives the type. -/
theorem withoutWordsOf_setCondition_of_forall
    (hgiven : outcome = given ∨ type = happy ∧ outcome.status = given.status)
    (htype : ∀ c ∈ conditions, c.type = type) :
    withoutWordsOf happy (manager.setCondition type outcome conditions) =
      withoutWordsOf happy (manager.setCondition type given (withoutWordsOf happy conditions)) := by
  cases conditions with
  | nil =>
      rw [withoutWordsOf_nil, setCondition_nil, setCondition_nil]
      rcases hgiven with rfl | ⟨rfl, hstatus⟩
      · rfl
      · simp [withoutWordsOf, create, Condition.wordless, hstatus]
  | cons c rest =>
      have hc : c.type = type := htype c List.mem_cons_self
      by_cases hhappy : c.type = happy
      · have hstatus : outcome.status = given.status := by
          rcases hgiven with rfl | ⟨-, hstatus⟩
          · rfl
          · exact hstatus
        -- a revision does not look at the words that were there
        have hrevised : manager.revise given c.wordless = manager.revise given c := rfl
        rw [withoutWordsOf_cons_self hhappy, setCondition_cons hc,
          setCondition_cons (c := c.wordless) hc, hrevised,
          withoutWordsOf_cons_self (c := manager.revise outcome c) hhappy,
          withoutWordsOf_cons_self (c := manager.revise given c) hhappy]
        simp only [Condition.wordless, revise, hstatus]
      · obtain rfl : outcome = given := hgiven.resolve_right fun h => hhappy (hc.trans h.1)
        rw [withoutWordsOf_cons_of_ne hhappy, setCondition_cons hc, setCondition_cons hc,
          withoutWordsOf_cons_of_ne (c := manager.revise outcome c) hhappy,
          withoutWordsOf_cons_of_ne (c := manager.revise outcome c) hhappy,
          withoutWordsOf_withoutWordsOf]

/-- On a list in order, the same is true of all conditions. -/
theorem withoutWordsOf_setCondition
    (hgiven : outcome = given ∨ type = happy ∧ outcome.status = given.status)
    (hordered : OrderedByType conditions) :
    withoutWordsOf happy (manager.setCondition type outcome conditions) =
      withoutWordsOf happy (manager.setCondition type given (withoutWordsOf happy conditions)) := by
  have hwritten :
      OrderedByType (manager.setCondition type given (withoutWordsOf happy conditions)) :=
    manager.orderedByType_setCondition (orderedByType_withoutWordsOf hordered)
  refine OrderedByType.eq_of_ofType_eq
    (orderedByType_withoutWordsOf (manager.orderedByType_setCondition hordered))
    (orderedByType_withoutWordsOf hwritten) fun other => ?_
  rw [ofType_withoutWordsOf, ofType_withoutWordsOf]
  by_cases hother : other = type
  · subst hother
    rw [ofType_setCondition_self, ofType_setCondition_self, ofType_withoutWordsOf]
    exact withoutWordsOf_setCondition_of_forall hgiven fun c => type_of_mem_ofType
  · rw [ofType_setCondition_of_ne hother, ofType_setCondition_of_ne hother, ofType_withoutWordsOf,
      withoutWordsOf_withoutWordsOf]

end ConditionManager

/-! ## Sets that differ in the order of declaration -/

/-- Sets with the same aggregate and the same dependents, each in an order of its own. -/
structure ConditionSet.Reorders (set other : ConditionSet) : Prop where
  happy : set.happy = other.happy
  dependents : set.dependents.Perm other.dependents

namespace ConditionSet

variable {set other : ConditionSet}

theorem reorders_of {happy : ConditionType} {dependents others : List ConditionType}
    (h : ∀ type, type ≠ happy → (type ∈ dependents ↔ type ∈ others)) :
    Reorders (of happy dependents) (of happy others) where
  happy := rfl
  dependents := by
    rw [List.perm_ext_iff_of_nodup (of happy dependents).nodup (of happy others).nodup]
    intro type
    rw [mem_dependents_of, mem_dependents_of]
    exact and_congr_left (h type)

theorem Reorders.declared (h : Reorders set other) : set.declared.Perm other.declared := by
  unfold ConditionSet.declared
  rw [h.happy]
  exact h.dependents.cons _

theorem Reorders.severity_eq (h : Reorders set other) : set.severity = other.severity := by
  funext type
  have hdeclared : set.isDeclared type = other.isDeclared type := by
    rw [Bool.eq_iff_iff, isDeclared, isDeclared, List.contains_iff_mem, List.contains_iff_mem,
      h.declared.mem_iff]
  rw [severity, severity, hdeclared]

end ConditionSet

/-- The status that several outcomes come to does not depend on their order. -/
theorem Outcome.status_combine_eq {outcomes : List Outcome} :
    (combine outcomes).status =
      if outcomes.any (fun outcome => outcome.status = .unknown) then .unknown
      else if outcomes.any (fun outcome => outcome.status = .unmet) then .unmet else .met := by
  have hany (status : ConditionStatus) :
      (outcomes.find? fun outcome => outcome.status = status).isSome =
        outcomes.any fun outcome => outcome.status = status :=
    List.isSome_find?
  rw [← hany, ← hany, combine]
  cases hfirst : outcomes.find? fun outcome => outcome.status = .unknown with
  | some outcome => simpa using List.find?_some hfirst
  | none =>
      cases hsecond : outcomes.find? fun outcome => outcome.status = .unmet with
      | some outcome => simpa using List.find?_some hsecond
      | none => rfl

theorem Outcome.status_combine_perm {first second : List Outcome} (h : first.Perm second) :
    (combine first).status = (combine second).status := by
  have hany (status : ConditionStatus) :
      first.any (fun outcome => outcome.status = status) =
        second.any fun outcome => outcome.status = status := by
    rw [Bool.eq_iff_iff, List.any_eq_true, List.any_eq_true]
    simp only [h.mem_iff]
  rw [status_combine_eq, status_combine_eq, hany, hany]

namespace ConditionManager

variable {set other : ConditionSet} {now : Instant} {happy type : ConditionType}
  {outcome given : Outcome} {first second conditions : List Condition}

/-- Managers of such sets with one timestamp make the same writes. -/
theorem setCondition_congr (h : set.Reorders other) :
    (ConditionManager.mk set now).setCondition type outcome conditions =
      (ConditionManager.mk other now).setCondition type outcome conditions := by
  have hcreate : (ConditionManager.mk set now).create = (ConditionManager.mk other now).create := by
    funext type outcome
    rw [create, create, h.severity_eq]
  have hrevise : (ConditionManager.mk set now).reviseFirst type outcome conditions =
      (ConditionManager.mk other now).reviseFirst type outcome conditions := by
    induction conditions with
    | nil => rfl
    | cons c rest ih => rw [reviseFirst, reviseFirst, ih, revise, revise, h.severity_eq]
  rw [ConditionManager.setCondition, ConditionManager.setCondition, hrevise, insertNew, insertNew,
    hcreate]

/-- On a list in order, the missing conditions may be added in any order. -/
theorem complete_congr (h : set.Reorders other) (hordered : OrderedByType conditions) :
    (ConditionManager.mk set now).complete conditions =
      (ConditionManager.mk other now).complete conditions := by
  refine (orderedByType_complete hordered).eq_of_ofType_eq
    (orderedByType_complete hordered) fun type => ?_
  rw [ofType_complete, ofType_complete]
  simp only [h.declared.mem_iff, create, h.severity_eq]

/-- Lists in order that are the same but for the words of the aggregate. -/
structure SameButWords (happy : ConditionType) (first second : List Condition) : Prop where
  orderedFirst : OrderedByType first
  orderedSecond : OrderedByType second
  same : withoutWordsOf happy first = withoutWordsOf happy second

namespace SameButWords

theorem setCondition (manager : ConditionManager) (h : SameButWords happy first second)
    (hgiven : outcome = given ∨ type = happy ∧ outcome.status = given.status) :
    SameButWords happy (manager.setCondition type outcome first)
      (manager.setCondition type given second) where
  orderedFirst := manager.orderedByType_setCondition h.orderedFirst
  orderedSecond := manager.orderedByType_setCondition h.orderedSecond
  same := by
    rw [withoutWordsOf_setCondition hgiven h.orderedFirst, h.same,
      ← withoutWordsOf_setCondition (Or.inl rfl) h.orderedSecond]

theorem findCondition? (h : SameButWords happy first second) (htype : type ≠ happy) :
    StatusRouter.findCondition? type first = StatusRouter.findCondition? type second := by
  rw [← findCondition?_withoutWordsOf htype, h.same, findCondition?_withoutWordsOf htype]

theorem map_type (h : SameButWords happy first second) :
    first.map Condition.type = second.map Condition.type := by
  rw [← map_type_withoutWordsOf, h.same, map_type_withoutWordsOf]

theorem complete (manager : ConditionManager) (h : SameButWords happy first second) :
    SameButWords happy (manager.complete first) (manager.complete second) := by
  have hmissing : manager.missing first = manager.missing second := by
    have hany (conditions : List Condition) (type : ConditionType) :
        (conditions.any fun c => c.type = type) =
          (conditions.map Condition.type).any fun other => other = type :=
      (List.any_map (l := conditions) (f := Condition.type) (p := fun other => other = type)).symm
    simp only [missing, hany, h.map_type]
  rw [ConditionManager.complete, ConditionManager.complete, hmissing]
  clear hmissing
  generalize manager.missing second = types
  induction types generalizing first second with
  | nil => exact h
  | cons type rest ih => exact ih (h.setCondition manager (Or.inl rfl))

theorem status_aggregate (hset : set.Reorders other) (h : SameButWords set.happy first second) :
    ((ConditionManager.mk set now).aggregate first).status =
      ((ConditionManager.mk other now).aggregate second).status := by
  have hreported : set.dependents.map (reported first) = set.dependents.map (reported second) := by
    refine List.map_congr_left fun type htype => ?_
    have hne : type ≠ set.happy := fun heq => set.happy_notMem (heq ▸ htype)
    rw [reported, reported, h.findCondition? hne]
  rw [aggregate_eq_combine, aggregate_eq_combine]
  exact hreported ▸ Outcome.status_combine_perm (hset.dependents.map (reported second))

theorem recompute (hset : set.Reorders other) (h : SameButWords set.happy first second) :
    SameButWords set.happy ((ConditionManager.mk set now).recompute first)
      ((ConditionManager.mk other now).recompute second) := by
  rw [ConditionManager.recompute, ConditionManager.recompute, ← setCondition_congr hset,
    ← hset.happy]
  exact h.setCondition _ (Or.inr ⟨rfl, status_aggregate hset h⟩)

theorem perform (hset : set.Reorders other) (h : SameButWords set.happy first second)
    (operation : Operation) :
    SameButWords set.happy ((ConditionManager.mk set now).perform first operation)
      ((ConditionManager.mk other now).perform second operation) := by
  cases operation with
  | initializing =>
      rw [ConditionManager.perform, ConditionManager.perform, initializeConditions_eq,
        initializeConditions_eq]
      refine recompute hset ?_
      rw [← complete_congr hset h.orderedSecond]
      exact h.complete _
  | marking type outcome =>
      refine recompute hset ?_
      rw [← setCondition_congr hset]
      exact h.setCondition _ (Or.inl rfl)

end SameButWords

/-- The step of an operation with a timestamp under a set. -/
def stepUnder (set : ConditionSet) (operation : Instant × Operation) : Step :=
  ⟨⟨set, operation.1⟩, operation.2⟩

/-- Two sets may declare the same dependents in any order and any number of times: the same
operations with the same timestamps, on a list in order, leave the same conditions in the same
places and the same in every field, but for the reason and the message of the aggregate. -/
theorem withoutWordsOf_run_eq (happy : ConditionType) {dependents others : List ConditionType}
    (hsame : ∀ type, type ≠ happy → (type ∈ dependents ↔ type ∈ others))
    {initial : List Condition} (hordered : OrderedByType initial)
    (operations : List (Instant × Operation)) :
    withoutWordsOf happy (run initial (operations.map (stepUnder (.of happy dependents)))) =
      withoutWordsOf happy (run initial (operations.map (stepUnder (.of happy others)))) := by
  have hset : ConditionSet.Reorders (.of happy dependents) (.of happy others) :=
    ConditionSet.reorders_of hsame
  suffices hrun : SameButWords happy
      (run initial (operations.map (stepUnder (.of happy dependents))))
      (run initial (operations.map (stepUnder (.of happy others)))) from hrun.same
  induction operations using List.reverseRecOn with
  | nil => exact ⟨hordered, hordered, rfl⟩
  | append_singleton operations last ih =>
      rw [List.map_append, List.map_append, List.map_singleton, List.map_singleton,
        run_append_singleton, run_append_singleton]
      exact ih.perform hset last.2

/-- Two dependents are not met, and the aggregate is marked on the way.  Each order of declaration
shows the reason of the dependent that it names first. -/
theorem withoutWordsOf_run_eq_of_two_orders :
    let dependents : List ConditionType := [⟨"Second"⟩, .ready, ⟨"First"⟩, ⟨"Second"⟩]
    let others : List ConditionType := [⟨"First"⟩, ⟨"Second"⟩]
    let initial : List Condition :=
      [⟨⟨"First"⟩, .unmet, .info, none, "Broken", ""⟩, ⟨⟨"First"⟩, .met, .error, none, "", ""⟩]
    let operations : List (Instant × Operation) :=
      [(exampleTime 10, .initializing), (exampleTime 20, .marking .ready ⟨.met, "Forced", ""⟩),
        (exampleTime 30, .marking ⟨"Second"⟩ ⟨.unmet, "Failed", ""⟩)]
    let first := run initial (operations.map (stepUnder (.of .ready dependents)))
    let second := run initial (operations.map (stepUnder (.of .ready others)))
    (∀ type, type ≠ .ready → (type ∈ dependents ↔ type ∈ others)) ∧ OrderedByType initial ∧
      (findCondition? .ready first).map Condition.reason = some "Failed" ∧
      (findCondition? .ready second).map Condition.reason = some "Broken" ∧
      withoutWordsOf .ready first = withoutWordsOf .ready second := by
  intro dependents others initial operations first second
  have hsame : ∀ type, type ≠ .ready → (type ∈ dependents ↔ type ∈ others) := by
    intro type htype
    simp only [dependents, others, List.mem_cons, htype, List.not_mem_nil]
    tauto
  have hordered : OrderedByType initial := by decide
  exact ⟨hsame, hordered, by decide +kernel, by decide +kernel,
    withoutWordsOf_run_eq .ready hsame hordered operations⟩

end ConditionManager

end StatusRouter
