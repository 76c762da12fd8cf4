/-!
# Lists without repetitions

`distinct` keeps the first occurrence of each member of a list, in place.  `firstRepeated?` finds
the member that is the first to stand in a list again, and nothing if no member does.
-/

namespace StatusRouter

variable {α : Type} [DecidableEq α]

/-- The first occurrence of each member. -/
def distinct : List α → List α
  | [] => []
  | a :: rest => a :: (distinct rest).filter (· ≠ a)

@[simp] theorem mem_distinct {a : α} {l : List α} : a ∈ distinct l ↔ a ∈ l := by
  induction l with
  | nil => simp [distinct]
  | cons b rest ih =>
    by_cases h : a = b
    · simp [distinct, h]
    · simp [distinct, h, ih]

theorem nodup_distinct (l : List α) : (distinct l).Nodup := by
  induction l with
  | nil => simp [distinct]
  | cons a rest ih =>
    rw [distinct, List.nodup_cons]
    exact ⟨by simp, ih.filter _⟩

/-- A list without repetitions stays as it is. -/
theorem distinct_of_nodup {l : List α} (h : l.Nodup) : distinct l = l := by
  induction l with
  | nil => rfl
  | cons a rest ih =>
    have hnodup := List.nodup_cons.1 h
    rw [distinct, ih hnodup.2, List.filter_eq_self.2]
    intro b hb
    have hne : b ≠ a := fun heq => hnodup.1 (heq ▸ hb)
    simpa using hne

/-- A member that is put behind the list is kept if it did not occur before. -/
theorem distinct_append_singleton (l : List α) (a : α) :
    distinct (l ++ [a]) = if a ∈ l then distinct l else distinct l ++ [a] := by
  induction l with
  | nil => simp [distinct]
  | cons b rest ih =>
    by_cases hb : a = b
    · subst hb
      -- the new occurrence is dropped on behalf of the head
      by_cases hrest : a ∈ rest <;> simp [distinct, ih, hrest]
    · by_cases hrest : a ∈ rest <;> simp [distinct, ih, hb, hrest]

/-- The first member that was seen before, in the list or beside it. -/
def firstRepeatedBeside? (seen : List α) : List α → Option α
  | [] => none
  | a :: rest => if a ∈ seen then some a else firstRepeatedBeside? (a :: seen) rest

/-- The first member that stands in the list before. -/
def firstRepeated? (l : List α) : Option α := firstRepeatedBeside? [] l

theorem firstRepeatedBeside?_eq_none_iff {seen l : List α} :
    firstRepeatedBeside? seen l = none ↔ l.Nodup ∧ ∀ a ∈ l, a ∉ seen := by
  induction l generalizing seen with
  | nil => simp [firstRepeatedBeside?]
  | cons a rest ih =>
    by_cases h : a ∈ seen
    · simp [firstRepeatedBeside?, h]
    · simp only [firstRepeatedBeside?, h, if_false, ih, List.nodup_cons, List.mem_cons,
        forall_eq_or_imp, not_false_eq_true, true_and, not_or]
      constructor
      · rintro ⟨hnodup, hall⟩
        exact ⟨⟨fun hmem => (hall a hmem).1 rfl, hnodup⟩, fun b hb => (hall b hb).2⟩
      · rintro ⟨⟨hnot, hnodup⟩, hall⟩
        exact ⟨hnodup, fun b hb => ⟨fun heq => hnot (heq ▸ hb), hall b hb⟩⟩

/-- No member is found exactly if none is repeated. -/
theorem firstRepeated?_eq_none_iff {l : List α} : firstRepeated? l = none ↔ l.Nodup := by
  simp [firstRepeated?, firstRepeatedBeside?_eq_none_iff]

end StatusRouter
