/-!
# Partition points

A list is partitioned by a test if the members that pass it come before all others.  The partition
point is the number of members that pass, and is found by halving the stretch it lies in.  On a list
that is not partitioned, halving still ends at some place of the list.
-/

namespace StatusRouter

variable {α : Type} (passes : α → Bool)

/-- Whether there is a member at an index and it passes. -/
def passesAt (l : List α) (index : Nat) : Bool :=
  l[index]?.any passes

/-- Halves a stretch of so many members from a base until one is left.  The upper half is kept if
its first member passes. -/
def narrow (l : List α) (base length : Nat) : Nat :=
  if length ≤ 1 then base
  else
    narrow l (if passesAt passes l (base + length / 2) then base + length / 2 else base)
      (length - length / 2)
termination_by length

/-- Behind the last member that passes, if the list is partitioned. -/
def partitionPoint (l : List α) : Nat :=
  let base := narrow passes l 0 l.length
  if passesAt passes l base then base + 1 else base

variable {passes} {l : List α}

theorem lt_length_of_passesAt {index : Nat} (h : passesAt passes l index = true) :
    index < l.length := by
  obtain ⟨a, ha, -⟩ := (Option.any_eq_true passes l[index]?).mp h
  exact (List.getElem?_eq_some_iff.mp ha).1

theorem narrow_le_length {base length : Nat} (hbase : base ≤ l.length) :
    narrow passes l base length ≤ l.length := by
  fun_induction narrow passes l base length with
  | case1 base length hlength => exact hbase
  | case2 base length hlength ih =>
      refine ih ?_
      split
      · rename_i hpasses
        exact Nat.le_of_lt (lt_length_of_passesAt hpasses)
      · exact hbase

/-- The partition point is a place of the list, also if the list is not partitioned. -/
theorem partitionPoint_le_length (l : List α) : partitionPoint passes l ≤ l.length := by
  simp only [partitionPoint]
  split
  · rename_i hpasses
    exact lt_length_of_passesAt hpasses
  · exact narrow_le_length (Nat.zero_le _)

/-- Halving a stretch that the partition point lies in ends in front of it, at most one place away,
if the members that pass are the first `point` ones. -/
theorem narrow_spec {point : Nat} (hpasses : ∀ index, passesAt passes l index = decide (index < point))
    {base length : Nat} (hbase : base = 0 ∨ base < point) (hpoint : point ≤ base + length) :
    (narrow passes l base length = 0 ∨ narrow passes l base length < point) ∧
      point ≤ narrow passes l base length + 1 := by
  fun_induction narrow passes l base length with
  | case1 base length hlength => exact ⟨hbase, by omega⟩
  | case2 base length hlength ih =>
      refine ih ?_ ?_ <;> simp only [hpasses, decide_eq_true_eq] <;> split <;> omega

theorem passesAt_of_partitioned (h : l.Pairwise fun a b => passes b = true → passes a = true)
    (index : Nat) : passesAt passes l index = decide (index < (l.takeWhile passes).length) := by
  induction l generalizing index with
  | nil => simp [passesAt]
  | cons a rest ih =>
      obtain ⟨hfirst, hrest⟩ := List.pairwise_cons.mp h
      by_cases ha : passes a = true
      · cases index with
        | zero => simp [passesAt, ha]
        | succ index => simpa [passesAt, ha] using ih hrest index
      · -- nothing behind a member that fails passes
        have hnone : passesAt passes (a :: rest) index = false := by
          refine Bool.eq_false_iff.mpr fun hpasses => ha ?_
          obtain ⟨b, hb, hpass⟩ := (Option.any_eq_true passes (a :: rest)[index]?).mp hpasses
          rcases List.mem_cons.mp (List.mem_of_getElem? hb) with rfl | hmem
          · exact hpass
          · exact hfirst b hmem hpass
        simp [hnone, ha]

/-- On a partitioned list, the members that pass are those in front of the partition point. -/
theorem partitionPoint_of_partitioned
    (h : l.Pairwise fun a b => passes b = true → passes a = true) :
    partitionPoint passes l = (l.takeWhile passes).length := by
  have hpasses := passesAt_of_partitioned h
  have hle : (l.takeWhile passes).length ≤ l.length := (l.takeWhile_sublist passes).length_le
  obtain ⟨hlow, hhigh⟩ := narrow_spec hpasses (Or.inl rfl) (by omega : _ ≤ 0 + l.length)
  simp only [partitionPoint, hpasses, decide_eq_true_eq]
  split <;> omega

theorem passesAt_eq_of_partitioned (h : l.Pairwise fun a b => passes b = true → passes a = true)
    {index : Nat} (hindex : index < l.length) :
    passes l[index] = decide (index < partitionPoint passes l) := by
  rw [partitionPoint_of_partitioned h, ← passesAt_of_partitioned h, passesAt,
    List.getElem?_eq_getElem hindex]
  rfl

theorem passes_of_mem_take (h : l.Pairwise fun a b => passes b = true → passes a = true) {a : α}
    (ha : a ∈ l.take (partitionPoint passes l)) : passes a = true := by
  obtain ⟨index, hindex, rfl⟩ := List.mem_take_iff_getElem.mp ha
  rw [passesAt_eq_of_partitioned h, decide_eq_true_eq]
  omega

theorem not_passes_of_mem_drop (h : l.Pairwise fun a b => passes b = true → passes a = true) {a : α}
    (ha : a ∈ l.drop (partitionPoint passes l)) : passes a = false := by
  obtain ⟨index, hindex, rfl⟩ := List.mem_drop_iff_getElem.mp ha
  rw [passesAt_eq_of_partitioned h, decide_eq_false_iff_not]
  omega

end StatusRouter
