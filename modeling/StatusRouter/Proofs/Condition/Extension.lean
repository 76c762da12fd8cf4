import StatusRouter.Proofs.Condition.Operation

/-!
# What an operation adds, and what it leaves alone

An operation is a row of writes: of the type that it marks, or of the declared types that are
missing, and then of the aggregate (`perform_of_writes`).  A write revises the first condition of its
type, or adds one if there is none.  So an operation extends the list it works on: the conditions
that were there stay, in the same order and, but for the first of the marked type and the first of
the aggregate, with all they say; and what it adds has types that were not there, each once
(`Extends`).

A condition is found by looking through the list, and only the place of a new one is found by
halving it.  On a list in order of types that place is between the smaller types and the larger ones,
so a list in order stays in order.
-/

namespace StatusRouter

/-! ## Lists in order of types -/

/-- The conditions are in order of their types, and there may be several of one type. -/
def OrderedByType (conditions : List Condition) : Prop :=
  conditions.Pairwise fun c d => c.type.name ≤ d.type.name

/-- The conditions are in order of their types, and there is one of each type. -/
def StrictlyOrderedByType (conditions : List Condition) : Prop :=
  conditions.Pairwise fun c d => c.type < d.type

instance (conditions : List Condition) : Decidable (OrderedByType conditions) :=
  inferInstanceAs (Decidable (List.Pairwise _ _))

instance (conditions : List Condition) : Decidable (StrictlyOrderedByType conditions) :=
  inferInstanceAs (Decidable (List.Pairwise _ _))

namespace ConditionType

variable {type other : ConditionType}

theorem not_lt_iff : ¬ type < other ↔ other.name ≤ type.name := String.not_lt

theorem le_of_lt (h : type < other) : type.name ≤ other.name :=
  not_lt_iff.mp (String.lt_asymm h)

theorem ne_of_lt (h : type < other) : type ≠ other := by
  rintro rfl
  exact String.lt_irrefl _ h

theorem lt_of_le_of_ne (h : type.name ≤ other.name) (hne : type ≠ other) : type < other := by
  by_contra hlt
  have hname : type.name = other.name := String.le_antisymm h (not_lt_iff.mp hlt)
  exact hne (by cases type; cases other; exact congrArg ConditionType.mk hname)

end ConditionType

theorem orderedByType_iff {conditions : List Condition} :
    OrderedByType conditions ↔
      (conditions.map Condition.type).Pairwise fun a b => a.name ≤ b.name := by
  rw [List.pairwise_map]
  rfl

theorem strictlyOrderedByType_iff {conditions : List Condition} :
    StrictlyOrderedByType conditions ↔
      OrderedByType conditions ∧ (conditions.map Condition.type).Nodup := by
  rw [List.Nodup, List.pairwise_map]
  constructor
  · intro h
    exact ⟨h.imp ConditionType.le_of_lt, h.imp ConditionType.ne_of_lt⟩
  · rintro ⟨hordered, hnodup⟩
    exact (hordered.and hnodup).imp fun h => ConditionType.lt_of_le_of_ne h.1 h.2

theorem mem_map_type_iff {type : ConditionType} {conditions : List Condition} :
    type ∈ conditions.map Condition.type ↔ findCondition? type conditions ≠ none := by
  simp [findCondition?_eq_none]

/-! ## Extensions -/

/-- Of a list, the conditions of the types that an earlier list has. -/
def keptOf (before after : List Condition) : List Condition :=
  after.filter fun c => c.type ∈ before.map Condition.type

/-- Of a list, the conditions of the types that an earlier list does not have. -/
def addedTo (before after : List Condition) : List Condition :=
  after.filter fun c => c.type ∉ before.map Condition.type

theorem map_type_addedTo (before after : List Condition) :
    (addedTo before after).map Condition.type =
      (after.map Condition.type).filter fun type => type ∉ before.map Condition.type := by
  rw [List.filter_map]
  rfl

/-- A list has all conditions of an earlier one, in the same order; of these only the first of each
touched type may say something else, and of each new type there is one. -/
structure Extends (touched : ConditionType → Prop) (before after : List Condition) : Prop where
  types : (keptOf before after).map Condition.type = before.map Condition.type
  same : ∀ place c, before[place]? = some c →
    ¬ touched c.type ∨ c.type ∈ (before.take place).map Condition.type →
      (keptOf before after)[place]? = some c
  added : ((addedTo before after).map Condition.type).Nodup

theorem extends_refl (touched : ConditionType → Prop) (conditions : List Condition) :
    Extends touched conditions conditions := by
  have hkept : keptOf conditions conditions = conditions :=
    List.filter_eq_self.mpr fun c hc => by simpa using ⟨c, hc, rfl⟩
  have hadded : addedTo conditions conditions = [] :=
    List.filter_eq_nil_iff.mpr fun c hc => by simpa using ⟨c, hc, rfl⟩
  exact
    { types := by rw [hkept]
      same := fun place c hc _ => by rwa [hkept]
      added := by simp [hadded] }

theorem Extends.subset {touched : ConditionType → Prop} {before after : List Condition}
    (h : Extends touched before after) :
    before.map Condition.type ⊆ after.map Condition.type := by
  rw [← h.types]
  exact List.map_subset _ List.filter_sublist.subset

theorem mem_map_type_addedTo {type : ConditionType} {before after : List Condition} :
    type ∈ (addedTo before after).map Condition.type ↔
      type ∈ after.map Condition.type ∧ type ∉ before.map Condition.type := by
  rw [map_type_addedTo, List.mem_filter, decide_eq_true_eq]

namespace ConditionManager

variable (manager : ConditionManager) {type other : ConditionType} {outcome : Outcome}
  {conditions before between : List Condition} {operation : Operation}

/-! ## One write -/

theorem insertIdx_eq_take_append_drop {c : Condition} {place : Nat}
    (hplace : place ≤ conditions.length) :
    conditions.insertIdx place c = conditions.take place ++ c :: conditions.drop place := by
  induction conditions generalizing place with
  | nil =>
      obtain rfl : place = 0 := by simpa using hplace
      rfl
  | cons d rest ih =>
      cases place with
      | zero => rfl
      | succ place =>
          rw [List.insertIdx_succ_cons, ih (by simpa using hplace), List.take_succ_cons,
            List.drop_succ_cons, List.cons_append]

theorem insertNew_eq_append :
    manager.insertNew type outcome conditions =
      conditions.take (partitionPoint (fun c => c.type < type) conditions) ++
        manager.create type outcome ::
          conditions.drop (partitionPoint (fun c => c.type < type) conditions) :=
  insertIdx_eq_take_append_drop (partitionPoint_le_length conditions)

theorem reviseFirst_of_notMem (h : type ∉ conditions.map Condition.type) :
    manager.reviseFirst type outcome conditions = conditions := by
  induction conditions with
  | nil => rfl
  | cons c rest ih =>
      rw [List.map_cons, List.mem_cons, not_or] at h
      rw [reviseFirst, if_neg (Ne.symm h.1), ih h.2]

/-- A revision leaves all conditions but the first of its type. -/
theorem getElem?_reviseFirst {place : Nat} {c : Condition} (hc : conditions[place]? = some c)
    (hother : c.type ≠ type ∨ c.type ∈ (conditions.take place).map Condition.type) :
    (manager.reviseFirst type outcome conditions)[place]? = some c := by
  induction conditions generalizing place with
  | nil => simp at hc
  | cons d rest ih =>
      unfold reviseFirst
      cases place with
      | zero =>
          obtain rfl : d = c := by simpa using hc
          have hne : d.type ≠ type := hother.resolve_right (by simp)
          rw [if_neg hne]
          rfl
      | succ place =>
          split
          · exact hc
          · rename_i hd
            refine ih hc ?_
            rw [List.take_succ_cons, List.map_cons, List.mem_cons] at hother
            rcases hother with hne | heq | hmem
            · exact Or.inl hne
            · exact Or.inl (heq ▸ hd)
            · exact Or.inr hmem

/-- A revision is seen in the part of a list that has its type. -/
theorem filter_reviseFirst (p : ConditionType → Bool) :
    (manager.reviseFirst type outcome conditions).filter (fun c => p c.type) =
      manager.reviseFirst type outcome (conditions.filter fun c => p c.type) := by
  induction conditions with
  | nil => rfl
  | cons c rest ih =>
      by_cases hc : c.type = type
      · have hrevised : (manager.revise outcome c).type = type := hc
        by_cases hp : p type = true
        · simp [reviseFirst, hc, hrevised, hp]
        · have hnone : type ∉ (rest.filter fun c => p c.type).map Condition.type := by
            simp only [List.mem_map, List.mem_filter, not_exists, not_and]
            rintro d ⟨-, hd⟩ rfl
            exact hp hd
          simp [reviseFirst, hc, hrevised, hp, manager.reviseFirst_of_notMem hnone]
      · by_cases hp : p c.type = true <;> simp [reviseFirst, hc, hp, ih]

/-- A write adds no condition to the part of a list that has its type, and none to a part that leaves
its type out. -/
theorem filter_setCondition (p : ConditionType → Bool)
    (hp : p type = true → type ∈ conditions.map Condition.type) :
    (manager.setCondition type outcome conditions).filter (fun c => p c.type) =
      manager.reviseFirst type outcome (conditions.filter fun c => p c.type) := by
  unfold setCondition
  split
  · exact manager.filter_reviseFirst p
  · rename_i hany
    have hnew : type ∉ conditions.map Condition.type := by simpa using hany
    have hleft : p type = false := Bool.eq_false_iff.mpr fun htype => hnew (hp htype)
    have hnone : type ∉ (conditions.filter fun c => p c.type).map Condition.type :=
      fun hmem => hnew (List.map_subset _ List.filter_sublist.subset hmem)
    rw [insertNew_eq_append, List.filter_append, List.filter_cons_of_neg (by simp [create, hleft]),
      ← List.filter_append, List.take_append_drop, manager.reviseFirst_of_notMem hnone]

/-- A list that extends an earlier one extends it after a write of a type that may be touched, or that
the earlier list does not have. -/
theorem extends_setCondition {touched : ConditionType → Prop} (h : Extends touched before between)
    (htype : touched type ∨ type ∉ before.map Condition.type) :
    Extends touched before (manager.setCondition type outcome between) := by
  have hkept : keptOf before (manager.setCondition type outcome between) =
      manager.reviseFirst type outcome (keptOf before between) :=
    manager.filter_setCondition (fun type => type ∈ before.map Condition.type)
      fun hmem => h.subset (by simpa using hmem)
  refine ⟨?_, ?_, ?_⟩
  · rw [hkept, map_type_reviseFirst, h.types]
  · intro place c hc hleft
    rw [hkept]
    refine manager.getElem?_reviseFirst (h.same place c hc hleft) ?_
    -- the condition is the first of its type in the one list if it is in the other
    rw [List.map_take, h.types, ← List.map_take]
    refine hleft.imp_left fun huntouched heq => ?_
    subst heq
    exact (htype.resolve_left huntouched) (List.mem_map_of_mem (List.mem_of_getElem? hc))
  · have hadded := h.added
    rw [map_type_addedTo] at hadded ⊢
    rcases manager.map_type_setCondition type outcome between with ⟨hsame, -⟩ | ⟨hperm, hnew⟩
    · rwa [hsame]
    · rw [(hperm.filter _).nodup_iff, List.filter_cons]
      split
      · exact List.nodup_cons.mpr ⟨fun hmem => hnew (List.mem_filter.mp hmem).1, hadded⟩
      · exact hadded

theorem mem_map_type_setCondition :
    other ∈ (manager.setCondition type outcome conditions).map Condition.type ↔
      other = type ∨ other ∈ conditions.map Condition.type := by
  rcases manager.map_type_setCondition type outcome conditions with ⟨hsame, hmem⟩ | ⟨hperm, -⟩
  · rw [hsame, iff_or_self]
    rintro rfl
    exact hmem
  · rw [hperm.mem_iff, List.mem_cons]

theorem orderedByType_setCondition (h : OrderedByType conditions) :
    OrderedByType (manager.setCondition type outcome conditions) := by
  unfold setCondition
  split
  · -- a revision leaves the types, and the order is one of types
    rw [orderedByType_iff] at h ⊢
    rwa [map_type_reviseFirst]
  · have hpartitioned : conditions.Pairwise fun c d =>
        decide (d.type < type) = true → decide (c.type < type) = true := by
      refine h.imp fun {c d} hle => ?_
      simp only [decide_eq_true_eq]
      intro hlt
      have hname : c.type.name < type.name := Std.lt_of_le_of_lt hle hlt
      exact hname
    rw [insertNew_eq_append]
    have hfront : ∀ c ∈ conditions.take (partitionPoint (fun c => c.type < type) conditions),
        c.type.name ≤ type.name := fun c hc =>
      ConditionType.le_of_lt (of_decide_eq_true (passes_of_mem_take hpartitioned hc))
    have hback : ∀ c ∈ conditions.drop (partitionPoint (fun c => c.type < type) conditions),
        type.name ≤ c.type.name := fun c hc =>
      ConditionType.not_lt_iff.mp (of_decide_eq_false (not_passes_of_mem_drop hpartitioned hc))
    refine List.pairwise_append.mpr ⟨h.sublist (List.take_sublist ..), ?_, ?_⟩
    · exact List.pairwise_cons.mpr ⟨hback, h.sublist (List.drop_sublist ..)⟩
    · intro c hc d hd
      rcases List.mem_cons.mp hd with rfl | hd
      · exact hfront c hc
      · exact String.le_trans (hfront c hc) (hback d hd)

/-! ## All writes of an operation -/

/-- What holds of a list, and is kept by every write that an operation may make, holds of the list
after the operation. -/
theorem perform_of_writes {motive : List Condition → Prop} (operation : Operation)
    (hstart : motive conditions)
    (hwrite : ∀ type outcome between,
      type = manager.set.happy ∨ operation.marked? = some type ∨
          operation = .initializing ∧ type ∈ manager.missing conditions →
        motive between → motive (manager.setCondition type outcome between)) :
    motive (manager.perform conditions operation) := by
  cases operation with
  | initializing =>
      refine hwrite _ _ _ (Or.inl rfl) (List.foldlRecOn _ _ hstart ?_)
      intro between hbetween type htype
      exact hwrite type _ between (Or.inr (Or.inr ⟨rfl, htype⟩)) hbetween
  | marking type outcome =>
      exact hwrite _ _ _ (Or.inl rfl) (hwrite type _ _ (Or.inr (Or.inl rfl)) hstart)

theorem extends_perform (conditions : List Condition) (operation : Operation) :
    Extends (fun type => type = manager.set.happy ∨ operation.marked? = some type) conditions
      (manager.perform conditions operation) := by
  refine manager.perform_of_writes operation (extends_refl _ conditions) ?_
  intro type outcome between htype hbetween
  refine manager.extends_setCondition hbetween ?_
  rcases htype with hhappy | hmarked | ⟨-, hmissing⟩
  · exact Or.inl (Or.inl hhappy)
  · exact Or.inl (Or.inr hmarked)
  · -- a type that is missing has no condition that could be touched
    exact Or.inr (mem_map_type_iff.not_left.mpr (manager.mem_missing.mp hmissing).2)

theorem orderedByType_perform (operation : Operation) (h : OrderedByType conditions) :
    OrderedByType (manager.perform conditions operation) :=
  manager.perform_of_writes operation h fun _ _ _ _ => manager.orderedByType_setCondition

/-- After an operation there are the types that were there, the aggregate, and the type that it marks
or, if it initializes, all that are declared. -/
theorem mem_map_type_perform :
    type ∈ (manager.perform conditions operation).map Condition.type ↔
      type ∈ conditions.map Condition.type ∨ type = manager.set.happy ∨
        operation.marked? = some type ∨
          operation = .initializing ∧ type ∈ manager.set.declared := by
  cases operation with
  | initializing =>
      have hcomplete : type ∈ (manager.complete conditions).map Condition.type ↔
          type ∈ conditions.map Condition.type ∨ type ∈ manager.set.declared := by
        rw [mem_map_type_iff, mem_map_type_iff, findCondition?_complete]
        cases findCondition? type conditions <;> simp
      rw [perform, initializeConditions_eq, recompute, mem_map_type_setCondition, hcomplete]
      simp [Operation.marked?, or_left_comm]
  | marking marked outcome =>
      rw [perform, mark, recompute, mem_map_type_setCondition, mem_map_type_setCondition]
      simp [Operation.marked?, eq_comm, or_assoc, or_comm, or_left_comm]

theorem strictlyOrderedByType_run {steps : List Step} (h : StrictlyOrderedByType conditions) :
    StrictlyOrderedByType (run conditions steps) := by
  induction steps using List.reverseRecOn with
  | nil => exact h
  | append_singleton steps step ih =>
      obtain ⟨hordered, hnodup⟩ := strictlyOrderedByType_iff.mp ih
      rw [run_append_singleton]
      exact strictlyOrderedByType_iff.mpr
        ⟨step.manager.orderedByType_perform step.operation hordered,
          step.manager.nodup_perform step.operation hnodup⟩

/-- An operation on any list removes no condition and keeps those that are there in their order; all
but the first one of the marked type and the first one of the aggregate stay as they are.  It adds one
condition for each type that had none and is the aggregate, the marked type or, if it initializes, a
declared one, and no others.  A list in order of types stays in order, so in a run of any managers
that starts from a list with one condition a type, in order, as the empty list is, there is always
one condition a type, in order. -/
theorem extension_of_run (manager : ConditionManager) (before : List Condition)
    (operation : Operation) :
    let after := manager.perform before operation
    Extends (fun type => type = manager.set.happy ∨ operation.marked? = some type) before after ∧
    (∀ type, type ∈ (addedTo before after).map Condition.type ↔
      type ∉ before.map Condition.type ∧
        (type = manager.set.happy ∨ operation.marked? = some type ∨
          operation = .initializing ∧ type ∈ manager.set.declared)) ∧
    (OrderedByType before → OrderedByType after) ∧
    ∀ (initial : List Condition) (steps : List Step), StrictlyOrderedByType initial →
      StrictlyOrderedByType (run initial steps) ∧
        ((run initial steps).map Condition.type).Nodup := by
  intro after
  refine ⟨manager.extends_perform before operation, ?_,
    manager.orderedByType_perform operation, ?_⟩
  · intro type
    have hafter : type ∈ after.map Condition.type ↔ _ := manager.mem_map_type_perform
    rw [mem_map_type_addedTo, hafter]
    tauto
  · intro initial steps hinitial
    have hrun : StrictlyOrderedByType (run initial steps) := strictlyOrderedByType_run hinitial
    exact ⟨hrun, (strictlyOrderedByType_iff.mp hrun).2⟩

/-- Of two conditions of the marked type the second one stays as it is, and the aggregate is put in
its place.  A manager of another set goes on with the list that the first one has completed. -/
theorem extension_of_run_of_repeated_type :
    let first : Condition := ⟨⟨"First"⟩, .unmet, .error, none, "Broken", ""⟩
    let repeated : Condition := ⟨⟨"First"⟩, .unknown, .info, none, "", "Seen before"⟩
    let third : Condition := ⟨⟨"Third"⟩, .met, .info, none, "", ""⟩
    let manager : ConditionManager := ⟨.living [⟨"Second"⟩, ⟨"First"⟩], exampleTime 10⟩
    let operation : Operation := .marking ⟨"First"⟩ .met
    let before := [first, repeated, third]
    let after := manager.perform before operation
    let steps : List Step :=
      [⟨manager, .initializing⟩, ⟨⟨.batch [⟨"Second"⟩], exampleTime 20⟩, operation⟩]
    OrderedByType before ∧ OrderedByType after ∧
      (keptOf before after)[1]? = some repeated ∧
      after.map (fun c => c.type.name) = ["First", "First", "Ready", "Third"] ∧
      StrictlyOrderedByType [third] ∧ StrictlyOrderedByType (run [third] steps) ∧
      (run [third] steps).map (fun c => c.type.name) =
        ["First", "Ready", "Second", "Succeeded", "Third"] := by
  intro first repeated third manager operation before after steps
  obtain ⟨hextends, -, hordered, hstrictly⟩ := extension_of_run manager before operation
  have hbefore : OrderedByType before := by decide
  have hthird : StrictlyOrderedByType [third] := by decide
  have hrepeated : (keptOf before after)[1]? = some repeated :=
    hextends.same 1 repeated rfl (Or.inr (by decide))
  exact ⟨hbefore, hordered hbefore, hrepeated, by decide +kernel, hthird,
    (hstrictly [third] steps hthird).1, by decide +kernel⟩

end ConditionManager

end StatusRouter
