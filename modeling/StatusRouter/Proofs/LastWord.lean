import Mathlib.Data.List.Induction

/-!
# The last word of a history

A history is a list of events, and a value may be read off it that only some of the events set, by
what they say and by what came before them.  `SetBy` says so of a value.  Then the value is what the
last event that had a say gave it (`SetBy.eq_of_lastWord`), and it is there only if some event gave
it (`SetBy.eq_some_iff`).
-/

namespace StatusRouter

variable {α β : Type}

/-- Of the events of a history, the one after `earlier` is the last that has a say. -/
structure LastWord (speaks : List α → α → Prop) (history earlier : List α) (last : α)
    (later : List α) : Prop where
  split : history = earlier ++ last :: later
  spoken : speaks earlier last
  silent : ∀ between next rest, later = between ++ next :: rest →
    ¬ speaks (earlier ++ last :: between) next

/-- A value that is missing at first, and that is set by the events that have a say, and by no
others. -/
structure SetBy (speaks : List α → α → Prop) (given : α → Option β) (value : List α → Option β) :
    Prop where
  nil : value [] = none
  spoken : ∀ earlier last, speaks earlier last → value (earlier ++ [last]) = given last
  silent : ∀ earlier last, ¬ speaks earlier last → value (earlier ++ [last]) = value earlier

variable {speaks : List α → α → Prop} {given : α → Option β} {value : List α → Option β}
  {history : List α}

theorem lastWord_append_singleton {last : α} (h : speaks history last) :
    LastWord speaks (history ++ [last]) history last [] :=
  ⟨rfl, h, by simp⟩

theorem LastWord.append_silent {earlier later : List α} {last final : α}
    (h : LastWord speaks history earlier last later) (hfinal : ¬ speaks history final) :
    LastWord speaks (history ++ [final]) earlier last (later ++ [final]) where
  split := by rw [h.split, List.append_assoc, List.cons_append]
  spoken := h.spoken
  silent := by
    intro between next rest hsplit
    -- the next event is the final one, or one of those that the assumption speaks of
    rcases rest.eq_nil_or_concat with rfl | ⟨rest, _, rfl⟩
    · obtain ⟨rfl, hnext⟩ := List.append_inj' hsplit rfl
      obtain rfl := List.singleton_inj.mp hnext
      exact h.split ▸ hfinal
    · rw [List.concat_eq_append, ← List.cons_append, ← List.append_assoc] at hsplit
      exact h.silent between next rest (List.append_inj' hsplit rfl).1

namespace SetBy

/-- The value is what the last event with a say gave it. -/
theorem eq_of_lastWord (h : SetBy speaks given value) {earlier later : List α} {last : α}
    (hlast : LastWord speaks history earlier last later) : value history = given last := by
  obtain ⟨rfl, hspoken, hsilent⟩ := hlast
  induction later using List.reverseRecOn with
  | nil => exact h.spoken earlier last hspoken
  | append_singleton later final ih =>
      have hfinal : ¬ speaks (earlier ++ last :: later) final := hsilent later final [] rfl
      have hlater : ∀ between next rest, later = between ++ next :: rest →
          ¬ speaks (earlier ++ last :: between) next := by
        rintro between next rest rfl
        exact hsilent between next (rest ++ [final]) (by simp)
      rw [← List.cons_append, ← List.append_assoc, h.silent _ final hfinal, ih hlater]

/-- A value that is there was given by the last event with a say. -/
theorem exists_lastWord (h : SetBy speaks given value) {v : β} (hvalue : value history = some v) :
    ∃ earlier last later, LastWord speaks history earlier last later ∧ given last = some v := by
  induction history using List.reverseRecOn with
  | nil => simp [h.nil] at hvalue
  | append_singleton history final ih =>
      by_cases hspeaks : speaks history final
      · rw [h.spoken history final hspeaks] at hvalue
        exact ⟨history, final, [], lastWord_append_singleton hspeaks, hvalue⟩
      · rw [h.silent history final hspeaks] at hvalue
        obtain ⟨earlier, last, later, hlast, hgiven⟩ := ih hvalue
        exact ⟨earlier, last, later ++ [final], hlast.append_silent hspeaks, hgiven⟩

theorem eq_some_iff (h : SetBy speaks given value) {v : β} :
    value history = some v ↔
      ∃ earlier last later, LastWord speaks history earlier last later ∧ given last = some v := by
  constructor
  · exact h.exists_lastWord
  · rintro ⟨earlier, last, later, hlast, hgiven⟩
    rw [h.eq_of_lastWord hlast, hgiven]

end SetBy

end StatusRouter
