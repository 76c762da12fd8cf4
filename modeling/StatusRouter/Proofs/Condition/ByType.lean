import StatusRouter.Proofs.Condition.Extension

/-!
# The conditions of a type

A list in order of types is known by its conditions of each type, in the order of the list
(`OrderedByType.eq_of_ofType_eq`).  So lists that came about in different ways need not be compared
place by place.

A write changes the conditions of its own type only, and it changes them as it would change a list
of these alone.  Where it puts a new condition depends on the whole list, but a new condition is the
only one of its type.  So the declared conditions that are missing may be added in any order
(`ofType_complete`).
-/

namespace StatusRouter

/-- The conditions of a type, in the order of the list. -/
def ofType (type : ConditionType) (conditions : List Condition) : List Condition :=
  conditions.filter fun c => c.type = type

section

variable {type other : ConditionType} {first second conditions : List Condition}

theorem ofType_cons (c : Condition) (rest : List Condition) :
    ofType type (c :: rest) =
      if c.type = type then c :: ofType type rest else ofType type rest := by
  by_cases h : c.type = type <;> simp [ofType, h]

theorem type_of_mem_ofType {c : Condition} (hc : c ∈ ofType type conditions) : c.type = type := by
  simpa using (List.mem_filter.mp hc).2

theorem notMem_map_type_ofType (h : other ≠ type) :
    type ∉ (ofType other conditions).map Condition.type := by
  simp only [List.mem_map, not_exists, not_and]
  intro c hc hctype
  exact h ((type_of_mem_ofType hc).symm.trans hctype)

theorem head?_ofType : (ofType type conditions).head? = findCondition? type conditions :=
  List.head?_filter

theorem ofType_ofType : ofType type (ofType type conditions) = ofType type conditions := by
  simp [ofType]

theorem ofType_eq_nil_iff :
    ofType type conditions = [] ↔ findCondition? type conditions = none := by
  simp [ofType, List.filter_eq_nil_iff, findCondition?_eq_none]

/-- The type at the head of a list in order is no larger than one that stands in the list. -/
theorem OrderedByType.head_le {c : Condition} {rest : List Condition}
    (h : OrderedByType (c :: rest)) (hmem : ofType type (c :: rest) ≠ []) :
    c.type.name ≤ type.name := by
  obtain ⟨d, hd⟩ := List.exists_mem_of_ne_nil _ hmem
  obtain ⟨hstands, htype⟩ : d ∈ c :: rest ∧ d.type = type := by simpa [ofType] using hd
  rw [← htype]
  rcases List.mem_cons.mp hstands with rfl | hrest
  · exact String.le_refl _
  · exact (List.pairwise_cons.mp h).1 d hrest

/-- Lists in order are equal if they have the same conditions of each type, in the same order. -/
theorem OrderedByType.eq_of_ofType_eq (hfirst : OrderedByType first)
    (hsecond : OrderedByType second) (h : ∀ type, ofType type first = ofType type second) :
    first = second := by
  induction first generalizing second with
  | nil =>
      cases second with
      | nil => rfl
      | cons d others => simpa [ofType] using h d.type
  | cons c rest ih =>
      cases second with
      | nil => simpa [ofType] using h c.type
      | cons d others =>
          have hle : c.type.name ≤ d.type.name :=
            hfirst.head_le (by rw [h d.type]; simp [ofType_cons])
          have hge : d.type.name ≤ c.type.name :=
            hsecond.head_le (by rw [← h c.type]; simp [ofType_cons])
          have htype : c.type = d.type := by
            by_contra hne
            exact ConditionType.not_lt_iff.mpr hge (ConditionType.lt_of_le_of_ne hle hne)
          have hheads : c :: ofType c.type rest = d :: ofType c.type others := by
            simpa [ofType_cons, htype] using h c.type
          obtain ⟨rfl, htails⟩ := List.cons.inj hheads
          refine congrArg (c :: ·) (ih (List.pairwise_cons.mp hfirst).2
            (List.pairwise_cons.mp hsecond).2 fun type => ?_)
          by_cases hc : c.type = type
          · exact hc ▸ htails
          · simpa [ofType_cons, hc] using h type

end

namespace ConditionManager

variable {manager : ConditionManager} {type other : ConditionType} {outcome : Outcome}
  {conditions : List Condition}

/-! ## Writes -/

theorem setCondition_of_mem (h : type ∈ conditions.map Condition.type) :
    manager.setCondition type outcome conditions = manager.reviseFirst type outcome conditions := by
  rw [setCondition, if_pos]
  simpa using h

theorem setCondition_nil :
    manager.setCondition type outcome [] = [manager.create type outcome] := by
  have hplace : partitionPoint (fun c : Condition => c.type < type) [] = 0 :=
    Nat.le_zero.mp (partitionPoint_le_length [])
  rw [setCondition, if_neg (by simp), insertNew, hplace]
  rfl

theorem setCondition_cons {c : Condition} {rest : List Condition} (hc : c.type = type) :
    manager.setCondition type outcome (c :: rest) = manager.revise outcome c :: rest := by
  have hmem : type ∈ (c :: rest).map Condition.type := by simp [hc]
  rw [setCondition_of_mem hmem, reviseFirst, if_pos hc]

theorem ofType_setCondition_of_ne (h : other ≠ type) :
    ofType other (manager.setCondition type outcome conditions) = ofType other conditions := by
  rw [ofType, manager.filter_setCondition (fun t => t = other)]
  · exact manager.reviseFirst_of_notMem (notMem_map_type_ofType h)
  · simpa using fun heq => absurd heq.symm h

/-- A new condition is the only one of its type, wherever it is put. -/
theorem ofType_insertNew (hnone : ofType type conditions = []) :
    ofType type (manager.insertNew type outcome conditions) = [manager.create type outcome] := by
  let place := partitionPoint (fun c => c.type < type) conditions
  have hsplit :
      ofType type (conditions.take place) ++ ofType type (conditions.drop place) = [] := by
    rw [ofType, ofType, ← List.filter_append, List.take_append_drop]
    exact hnone
  obtain ⟨hfront, hback⟩ := List.append_eq_nil_iff.mp hsplit
  have hcreated : (manager.create type outcome).type = type := rfl
  rw [insertNew_eq_append, ofType, List.filter_append, ← ofType, ← ofType, hfront, ofType_cons,
    if_pos hcreated, hback]
  rfl

/-- A write changes the conditions of its type as it would change a list of these alone. -/
theorem ofType_setCondition_self :
    ofType type (manager.setCondition type outcome conditions) =
      manager.setCondition type outcome (ofType type conditions) := by
  by_cases hmem : type ∈ conditions.map Condition.type
  · have hstill : type ∈ (ofType type conditions).map Condition.type := by
      rw [mem_map_type_iff] at hmem ⊢
      rwa [← head?_ofType, ofType_ofType, head?_ofType]
    rw [ofType, manager.filter_setCondition (fun t => t = type) fun _ => hmem,
      setCondition_of_mem hstill]
    rfl
  · have hnone : ofType type conditions = [] := by
      rw [ofType_eq_nil_iff]
      simpa [mem_map_type_iff] using hmem
    have hnew : manager.setCondition type outcome conditions =
        manager.insertNew type outcome conditions := by
      rw [setCondition, if_neg]
      simpa using hmem
    rw [hnew, ofType_insertNew hnone, hnone, setCondition_nil]

/-! ## Completions -/

theorem orderedByType_complete (h : OrderedByType conditions) :
    OrderedByType (manager.complete conditions) :=
  List.foldlRecOn _ _ h fun _ hbetween _ _ => manager.orderedByType_setCondition hbetween

theorem ofType_foldl_setCondition {types : List ConditionType} (hnodup : types.Nodup)
    (hnew : ∀ type ∈ types, ofType type conditions = []) :
    ofType type
        (types.foldl (fun conditions type => manager.setCondition type .unknown conditions)
          conditions) =
      if type ∈ types then [manager.create type .unknown] else ofType type conditions := by
  induction types generalizing conditions with
  | nil => simp
  | cons added rest ih =>
      obtain ⟨hadded, hrest⟩ := List.nodup_cons.mp hnodup
      have hstill : ∀ type ∈ rest,
          ofType type (manager.setCondition added .unknown conditions) = [] := by
        intro type htype
        have hne : type ≠ added := fun heq => hadded (heq ▸ htype)
        rw [ofType_setCondition_of_ne hne]
        exact hnew type (List.mem_cons_of_mem added htype)
      rw [List.foldl_cons, ih hrest hstill]
      by_cases htype : type = added
      · subst htype
        rw [if_neg hadded, if_pos List.mem_cons_self, ofType_setCondition_self,
          hnew type List.mem_cons_self, setCondition_nil]
      · simp only [List.mem_cons, htype, false_or]
        rw [ofType_setCondition_of_ne htype]

theorem ofType_complete :
    ofType type (manager.complete conditions) =
      if type ∈ manager.set.declared ∧ findCondition? type conditions = none then
        [manager.create type .unknown]
      else ofType type conditions := by
  have hnew : ∀ type ∈ manager.missing conditions, ofType type conditions = [] :=
    fun type htype => ofType_eq_nil_iff.mpr (manager.mem_missing.mp htype).2
  rw [complete, ofType_foldl_setCondition manager.nodup_missing hnew]
  simp only [mem_missing]

end ConditionManager

end StatusRouter
