/-!
# Interleavings of strands

Each event of a history may have a key.  The strand of a key are the events that have it, in order,
and a history in which all events have a key is an interleaving of its strands.  Histories with the
same strands may put the events of different keys in any order, but they have the same events, each
as often: they are permutations of each other (`perm_of_strand_eq`).  And what a state shows under a
key tells the strand of the key only, if the events of other keys leave it alone (`foldl_strand`).
-/

namespace StatusRouter

variable {α β κ : Type} [DecidableEq κ]

/-- The events of a key, in order. -/
def strand (key? : α → Option κ) (key : κ) (events : List α) : List α :=
  events.filter fun event => key? event = some key

section

variable {key? : α → Option κ} {key : κ} {event : α} {events first second : List α}

@[simp] theorem strand_nil : strand key? key [] = [] := rfl

theorem strand_cons :
    strand key? key (event :: events) =
      if key? event = some key then event :: strand key? key events else strand key? key events := by
  by_cases h : key? event = some key <;> simp [strand, h]

theorem strand_append :
    strand key? key (first ++ second) = strand key? key first ++ strand key? key second :=
  List.filter_append ..

theorem mem_strand : event ∈ strand key? key events ↔ event ∈ events ∧ key? event = some key := by
  simp [strand]

/-- A map that leaves out some events and keeps the keys of the others maps each strand. -/
theorem strand_filterMap {f : α → Option β} {key?' : β → Option κ}
    (hkey : ∀ a b, f a = some b → key?' b = key? a) :
    strand key?' key (events.filterMap f) = (strand key? key events).filterMap f := by
  induction events with
  | nil => rfl
  | cons a rest ih =>
      rw [strand_cons]
      cases hf : f a with
      | none =>
          rw [List.filterMap_cons_none hf, ih]
          split
          · rw [List.filterMap_cons_none hf]
          · rfl
      | some b =>
          rw [List.filterMap_cons_some hf, strand_cons, hkey a b hf, ih]
          split
          · rw [List.filterMap_cons_some hf]
          · rfl

/-- If what a state shows under a key is changed by the events of the key only, and depends on what
it showed before only, then it depends on the strand of the key. -/
theorem foldl_strand {σ τ : Type} (view : σ → τ) (step : σ → α → σ)
    (hown : ∀ s t event, key? event = some key → view s = view t →
      view (step s event) = view (step t event))
    (hothers : ∀ s event, key? event ≠ some key → view (step s event) = view s) {s t : σ}
    (h : view s = view t) :
    view (events.foldl step s) = view ((strand key? key events).foldl step t) := by
  induction events generalizing s t with
  | nil => exact h
  | cons event rest ih =>
      rw [strand_cons, List.foldl_cons]
      by_cases hkey : key? event = some key
      · rw [if_pos hkey, List.foldl_cons]
        exact ih (hown s t event hkey h)
      · rw [if_neg hkey]
        exact ih ((hothers s event hkey).trans h)

/-- Histories of events with keys are permutations of each other if they have the same strands. -/
theorem perm_of_strand_eq [DecidableEq α] (key? : α → Option κ)
    (hkeyed : ∀ event ∈ first ++ second, key? event ≠ none)
    (h : ∀ key, strand key? key first = strand key? key second) : first.Perm second := by
  rw [List.perm_iff_count]
  intro event
  cases hkey : key? event with
  | none =>
      -- an event without a key is in neither of them
      have hnot : event ∉ first ++ second := fun hmem => hkeyed event hmem hkey
      rw [List.mem_append, not_or] at hnot
      rw [List.count_eq_zero.mpr hnot.1, List.count_eq_zero.mpr hnot.2]
  | some key =>
      have hcount := congrArg (List.count event) (h key)
      rwa [strand, strand, List.count_filter (by simpa using hkey),
        List.count_filter (by simpa using hkey)] at hcount

theorem length_strand_le_one (h : (events.filterMap key?).Nodup) :
    (strand key? key events).length ≤ 1 := by
  induction events with
  | nil => exact Nat.zero_le 1
  | cons event rest ih =>
      have hrest : (rest.filterMap key?).Nodup :=
        ((List.sublist_cons_self event rest).filterMap key?).nodup h
      rw [strand_cons]
      by_cases hkey : key? event = some key
      · have hnone : strand key? key rest = [] := by
          refine List.eq_nil_iff_forall_not_mem.mpr fun other hother => ?_
          obtain ⟨hmem, hsame⟩ := mem_strand.mp hother
          rw [List.filterMap_cons_some hkey, List.nodup_cons] at h
          exact h.1 (List.mem_filterMap.mpr ⟨other, hmem, hsame⟩)
        simp [hkey, hnone]
      · rw [if_neg hkey]
        exact ih hrest

/-- Events of which no two have the same key may be put in any order. -/
theorem strand_eq_of_perm (hperm : first.Perm second) (hnodup : (first.filterMap key?).Nodup) :
    strand key? key first = strand key? key second := by
  have hstrands : (strand key? key first).Perm (strand key? key second) := hperm.filter _
  have hle : (strand key? key first).length ≤ 1 := length_strand_le_one hnodup
  match hstrand : strand key? key first with
  | [] =>
      rw [hstrand] at hstrands
      exact hstrands.nil_eq
  | [event] =>
      rw [hstrand] at hstrands
      exact (List.perm_singleton.mp hstrands.symm).symm
  | event :: other :: rest =>
      rw [hstrand] at hle
      simp at hle

end

end StatusRouter
