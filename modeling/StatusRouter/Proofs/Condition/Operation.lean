import Mathlib.Data.List.Induction
import StatusRouter.Proofs.Condition.Run

/-!
# What an operation leaves

The first condition of each type is all that later operations read, so an operation is described by
what it leaves there: `findCondition?_mark` and `findCondition?_initializeConditions` for the types
other than the aggregate, and the sections on records and times for what holds of every write.

A type is *recorded* with an outcome if writing that outcome once more would change nothing at all,
whatever the timestamp.  Every write records what it writes, and no write under another type undoes
it.
-/

namespace StatusRouter.ConditionManager

variable (manager : ConditionManager) {type other : ConditionType} {outcome : Outcome}
  {conditions : List Condition}

/-! ## The condition that a write leaves -/

@[simp] theorem written_type : (manager.written type outcome conditions).type = type := by
  unfold written
  cases hfind : findCondition? type conditions with
  | none => rfl
  | some c =>
      show c.type = type
      exact type_of_findCondition? hfind

@[simp] theorem written_outcome : (manager.written type outcome conditions).outcome = outcome := by
  unfold written
  cases findCondition? type conditions <;> rfl

@[simp] theorem written_severity :
    (manager.written type outcome conditions).severity = manager.set.severity type := by
  unfold written
  cases hfind : findCondition? type conditions with
  | none => rfl
  | some c => exact congrArg manager.set.severity (type_of_findCondition? hfind)

theorem written_lastTransitionTime_ne_none :
    (manager.written type outcome conditions).lastTransitionTime ≠ none := by
  unfold written
  cases findCondition? type conditions with
  | none => simp [create]
  | some c =>
      simp only [Option.map_some, Option.getD_some, revise]
      split
      · simp
      · rename_i hkept
        exact fun htime => hkept (Or.inr htime)

/-! ## What an operation leaves under the types other than the aggregate -/

theorem findCondition?_recompute (hother : other ≠ manager.set.happy) :
    findCondition? other (manager.recompute conditions) = findCondition? other conditions := by
  rw [recompute, findCondition?_setCondition, if_neg hother]

theorem findCondition?_mark (hother : other ≠ manager.set.happy) :
    findCondition? other (manager.mark type outcome conditions) =
      if other = type then some (manager.written type outcome conditions)
      else findCondition? other conditions := by
  rw [mark, findCondition?_recompute manager hother, findCondition?_setCondition]

theorem mem_missing :
    type ∈ manager.missing conditions ↔
      type ∈ manager.set.declared ∧ findCondition? type conditions = none := by
  simp [missing, findCondition?_eq_none]

theorem missing_eq_nil_iff :
    manager.missing conditions = [] ↔
      ∀ type ∈ manager.set.declared, findCondition? type conditions ≠ none := by
  simp only [List.eq_nil_iff_forall_not_mem, mem_missing, not_and, ne_eq]

theorem nodup_missing : (manager.missing conditions).Nodup :=
  manager.set.nodup_declared.filter _

/-- The conditions with the missing ones added, before the aggregate is derived. -/
def complete (conditions : List Condition) : List Condition :=
  (manager.missing conditions).foldl
    (fun conditions type => manager.setCondition type .unknown conditions) conditions

theorem initializeConditions_eq :
    manager.initializeConditions conditions = manager.recompute (manager.complete conditions) := rfl

theorem findCondition?_foldl_setCondition {types : List ConditionType} (hnodup : types.Nodup)
    (hnew : ∀ type ∈ types, findCondition? type conditions = none) :
    findCondition? other
        (types.foldl (fun conditions type => manager.setCondition type .unknown conditions)
          conditions) =
      if other ∈ types then some (manager.create other .unknown)
      else findCondition? other conditions := by
  induction types generalizing conditions with
  | nil => simp
  | cons first rest ih =>
      obtain ⟨hfirst, hrest⟩ := List.nodup_cons.mp hnodup
      -- the first write leaves the rest of the types without a condition
      have hstill : ∀ type ∈ rest,
          findCondition? type (manager.setCondition first .unknown conditions) = none := by
        intro type htype
        have hne : type ≠ first := fun heq => hfirst (heq ▸ htype)
        rw [findCondition?_setCondition, if_neg hne]
        exact hnew type (List.mem_cons_of_mem first htype)
      rw [List.foldl_cons, ih hrest hstill, findCondition?_setCondition]
      by_cases hother : other = first
      · subst hother
        simp [hfirst, written, hnew other List.mem_cons_self]
      · simp [hother]

theorem findCondition?_complete :
    findCondition? other (manager.complete conditions) =
      (findCondition? other conditions).or
        (if other ∈ manager.set.declared then some (manager.create other .unknown) else none) := by
  have hnew : ∀ type ∈ manager.missing conditions, findCondition? type conditions = none :=
    fun type htype => (manager.mem_missing.mp htype).2
  rw [complete, findCondition?_foldl_setCondition manager manager.nodup_missing hnew]
  cases hfind : findCondition? other conditions with
  | none => simp [mem_missing, hfind]
  | some c => simp [mem_missing, hfind]

/-- Initializing leaves a condition that is present as it is, and adds the dependents that are
missing. -/
theorem findCondition?_initializeConditions (hother : other ≠ manager.set.happy) :
    findCondition? other (manager.initializeConditions conditions) =
      (findCondition? other conditions).or
        (if other ∈ manager.set.dependents then some (manager.create other .unknown) else none) := by
  rw [initializeConditions_eq, findCondition?_recompute manager hother, findCondition?_complete]
  simp [ConditionSet.declared, hother]

theorem findCondition?_perform_ne_none {operation : Operation}
    (hfind : findCondition? type conditions ≠ none) :
    findCondition? type (manager.perform conditions operation) ≠ none := by
  by_cases htype : type = manager.set.happy
  · cases operation <;>
      simp [perform, mark, initializeConditions_eq, recompute, findCondition?_setCondition, htype]
  · cases operation with
    | initializing =>
        rw [perform, findCondition?_initializeConditions manager htype]
        simp [hfind]
    | marking marked outcome =>
        rw [perform, findCondition?_mark manager htype]
        split <;> simp [hfind]

/-- An operation leaves a condition that is present as it is, unless it is the aggregate or the
operation marks it. -/
theorem findCondition?_perform {operation : Operation} (hother : other ≠ manager.set.happy)
    (hmarked : operation.marked? ≠ some other) (hfind : findCondition? other conditions ≠ none) :
    findCondition? other (manager.perform conditions operation) =
      findCondition? other conditions := by
  cases operation with
  | initializing =>
      obtain ⟨c, hc⟩ := Option.ne_none_iff_exists'.mp hfind
      rw [perform, findCondition?_initializeConditions manager hother, hc, Option.some_or]
  | marking type outcome =>
      have hne : other ≠ type := fun heq => hmarked (by rw [heq]; rfl)
      rw [perform, findCondition?_mark manager hother, if_neg hne]

/-! ## One condition a type

A write adds a condition only for a type that has none, so a list with one condition a type keeps
that form. -/

theorem map_type_reviseFirst :
    (manager.reviseFirst type outcome conditions).map Condition.type =
      conditions.map Condition.type := by
  induction conditions with
  | nil => rfl
  | cons c rest ih =>
      unfold reviseFirst
      split
      · rfl
      · rw [List.map_cons, List.map_cons, ih]

/-- A write leaves the types as they are, or adds its own if it is not there. -/
theorem map_type_setCondition (type : ConditionType) (outcome : Outcome)
    (conditions : List Condition) :
    (manager.setCondition type outcome conditions).map Condition.type =
        conditions.map Condition.type ∧ type ∈ conditions.map Condition.type ∨
      ((manager.setCondition type outcome conditions).map Condition.type).Perm
        (type :: conditions.map Condition.type) ∧ type ∉ conditions.map Condition.type := by
  unfold setCondition
  split
  · rename_i hany
    exact Or.inl ⟨manager.map_type_reviseFirst, by simpa using hany⟩
  · rename_i hany
    refine Or.inr ⟨?_, by simpa using hany⟩
    have hperm : (manager.insertNew type outcome conditions).Perm
        (manager.create type outcome :: conditions) :=
      List.perm_insertIdx _ _ (partitionPoint_le_length conditions)
    exact hperm.map Condition.type

theorem nodup_setCondition (h : (conditions.map Condition.type).Nodup) :
    ((manager.setCondition type outcome conditions).map Condition.type).Nodup := by
  rcases manager.map_type_setCondition type outcome conditions with ⟨hsame, -⟩ | ⟨hperm, hnew⟩
  · rwa [hsame]
  · rw [hperm.nodup_iff]
    exact List.nodup_cons.mpr ⟨hnew, h⟩

theorem nodup_complete (h : (conditions.map Condition.type).Nodup) :
    ((manager.complete conditions).map Condition.type).Nodup := by
  unfold complete
  generalize manager.missing conditions = types
  induction types generalizing conditions with
  | nil => exact h
  | cons type rest ih => exact ih (manager.nodup_setCondition h)

theorem nodup_perform (operation : Operation) (h : (conditions.map Condition.type).Nodup) :
    ((manager.perform conditions operation).map Condition.type).Nodup := by
  cases operation with
  | initializing => exact manager.nodup_setCondition (manager.nodup_complete h)
  | marking type outcome => exact manager.nodup_setCondition (manager.nodup_setCondition h)

theorem nodup_run {steps : List Step} : ((run [] steps).map Condition.type).Nodup := by
  induction steps using List.reverseRecOn with
  | nil => simp
  | append_singleton steps step ih =>
      rw [run_append_singleton]
      exact step.manager.nodup_perform step.operation ih

/-- With one condition a type, every condition is the one that is found under its type. -/
theorem findCondition?_of_mem {c : Condition} (h : (conditions.map Condition.type).Nodup)
    (hc : c ∈ conditions) : findCondition? c.type conditions = some c := by
  induction conditions with
  | nil => simp at hc
  | cons d rest ih =>
      obtain ⟨hd, hrest⟩ := List.nodup_cons.mp h
      rcases List.mem_cons.mp hc with rfl | hmem
      · simp [findCondition?_cons]
      · have hne : d.type ≠ c.type := fun heq => hd (heq ▸ List.mem_map_of_mem hmem)
        rw [findCondition?_cons, if_neg hne, ih hrest hmem]

/-! ## Records

A write is a record of its outcome: the same write, by any manager of the set, is then a write of
what is there already. -/

/-- The condition of a type says an outcome under the severity of the set, and has a time. -/
def Recorded (set : ConditionSet) (type : ConditionType) (outcome : Outcome)
    (conditions : List Condition) : Prop :=
  ∃ c, findCondition? type conditions = some c ∧ c.outcome = outcome ∧
    c.severity = set.severity type ∧ c.lastTransitionTime ≠ none

theorem recorded_setCondition :
    Recorded manager.set type outcome (manager.setCondition type outcome conditions) :=
  ⟨manager.written type outcome conditions, by simp [findCondition?_setCondition],
    manager.written_outcome, manager.written_severity, manager.written_lastTransitionTime_ne_none⟩

variable {manager}

theorem Recorded.ne_none {set : ConditionSet} (h : Recorded set type outcome conditions) :
    findCondition? type conditions ≠ none := by
  obtain ⟨c, hc, -⟩ := h
  simp [hc]

theorem Recorded.congr {set : ConditionSet} {after : List Condition}
    (h : Recorded set type outcome conditions)
    (hfind : findCondition? type after = findCondition? type conditions) :
    Recorded set type outcome after := by
  obtain ⟨c, hc, hrest⟩ := h
  exact ⟨c, hfind.trans hc, hrest⟩

theorem revise_eq_self {c : Condition} (houtcome : c.outcome = outcome)
    (hseverity : c.severity = manager.set.severity c.type) (htime : c.lastTransitionTime ≠ none) :
    manager.revise outcome c = c := by
  subst houtcome
  have hkept : ¬ (c.status ≠ c.outcome.status ∨ c.lastTransitionTime = none) := by
    simp [Condition.outcome, htime]
  rw [revise, if_neg hkept, ← hseverity]
  rfl

theorem reviseFirst_eq_self {c : Condition} (hfind : findCondition? type conditions = some c)
    (hrevise : manager.revise outcome c = c) :
    manager.reviseFirst type outcome conditions = conditions := by
  induction conditions with
  | nil => rfl
  | cons d rest ih =>
      rw [findCondition?_cons] at hfind
      unfold reviseFirst
      split at hfind
      · rename_i hd
        obtain rfl := Option.some.inj hfind
        rw [if_pos hd, hrevise]
      · rename_i hd
        rw [if_neg hd, ih hfind]

/-- Writing what is recorded changes nothing. -/
theorem Recorded.setCondition_eq_self (h : Recorded manager.set type outcome conditions) :
    manager.setCondition type outcome conditions = conditions := by
  obtain ⟨c, hfind, houtcome, hseverity, htime⟩ := h
  have htype : c.type = type := type_of_findCondition? hfind
  have hany : (conditions.any fun d => d.type = type) = true :=
    List.any_eq_true.mpr ⟨c, List.mem_of_find?_eq_some hfind, by simpa using htype⟩
  rw [setCondition, if_pos hany]
  exact reviseFirst_eq_self hfind (revise_eq_self houtcome (htype ▸ hseverity) htime)

end StatusRouter.ConditionManager
