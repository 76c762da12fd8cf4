import Mathlib.Data.List.Basic
import Mathlib.Data.List.Induction
import StatusRouter.Condition.Set

/-!
# What a set keeps of the types it is given

The dependents of a set are gathered from a list of types, one type after another.  A type is put
behind the dependents so far, unless it is the aggregate or one of them
(`dependents_of_append_singleton`).  So the dependents grow at their end only, and each of them
stands where its first occurrence puts it.

The order matters, since the aggregate takes its words from the first dependent that keeps it from
being met.  Listing more types behind the others never changes which of the earlier dependents comes
first (`dependents_of_prefix_append`).
-/

namespace StatusRouter

/-- What is put behind a list for the first time occurs behind all of its members. -/
theorem idxOf_lt_idxOf_append_singleton {α : Type} [DecidableEq α] {l : List α} {a b : α}
    (ha : a ∈ l) (hb : b ∉ l) : (l ++ [b]).idxOf a < (l ++ [b]).idxOf b := by
  calc (l ++ [b]).idxOf a = l.idxOf a := List.idxOf_append_of_mem ha
    _ < l.length := List.idxOf_lt_length_of_mem ha
    _ ≤ l.length + [b].idxOf b := Nat.le_add_right _ _
    _ = (l ++ [b]).idxOf b := (List.idxOf_append_of_notMem hb).symm

namespace ConditionSet

variable {happy type : ConditionType} {types others : List ConditionType}

/-! ## One more type -/

/-- A type that is listed behind the others is a new dependent at the end, unless it is the aggregate
or was there before. -/
theorem dependents_of_append_singleton :
    (of happy (types ++ [type])).dependents =
      if type = happy ∨ type ∈ (of happy types).dependents then (of happy types).dependents
      else (of happy types).dependents ++ [type] := by
  by_cases hhappy : type = happy
  · simp [of, hhappy]
  · by_cases hmem : type ∈ types <;> simp [of, distinct_append_singleton, hhappy, hmem]

/-! ## Any number of types -/

theorem dependents_of_prefix_append :
    (of happy types).dependents <+: (of happy (types ++ others)).dependents := by
  induction others using List.reverseRecOn with
  | nil => simp
  | append_singleton others last ih =>
      rw [← List.append_assoc, dependents_of_append_singleton]
      split
      · exact ih
      · exact ih.trans (List.prefix_append _ _)

/-- The dependents stand in the order of their first occurrences. -/
theorem pairwise_idxOf_dependents_of :
    (of happy types).dependents.Pairwise
      fun first second => types.idxOf first < types.idxOf second := by
  induction types using List.reverseRecOn with
  | nil => exact List.Pairwise.nil
  | append_singleton types last ih =>
      have hlisted {type : ConditionType} (htype : type ∈ (of happy types).dependents) :
          type ∈ types :=
        (mem_dependents_of.mp htype).1
      -- the dependents so far occur where they did, since all of them are listed before the last type
      have hearlier : (of happy types).dependents.Pairwise fun first second =>
          (types ++ [last]).idxOf first < (types ++ [last]).idxOf second := by
        refine ih.imp_of_mem fun hfirst hsecond hlt => ?_
        rwa [List.idxOf_append_of_mem (hlisted hfirst), List.idxOf_append_of_mem (hlisted hsecond)]
      rw [dependents_of_append_singleton]
      split
      · exact hearlier
      · rename_i hnew
        obtain ⟨hhappy, hdependent⟩ := not_or.mp hnew
        have hlast : last ∉ types := fun hmem =>
          hdependent (mem_dependents_of.mpr ⟨hmem, hhappy⟩)
        refine List.pairwise_append.mpr ⟨hearlier, List.pairwise_singleton _ _, ?_⟩
        intro first hfirst second hsecond
        obtain rfl : second = last := List.mem_singleton.mp hsecond
        exact idxOf_lt_idxOf_append_singleton (hlisted hfirst) hlast

theorem isDeclared_of_iff :
    (of happy types).isDeclared type = true ↔ type = happy ∨ type ∈ types := by
  have hhappy : (of happy types).happy = happy := rfl
  rw [isDeclared_iff, mem_dependents_of, hhappy]
  tauto

/-- The dependents of a set are the types it was given, other than the aggregate, each of them once
and in the order of their first occurrences.  So no type is declared twice, and the declared types,
which are those of severity `error`, are the aggregate and the types given.  A set that is made from
the dependents again is the same, and more types at the end leave the dependents in front as they
are. -/
theorem of_keeps_first_occurrences (happy : ConditionType) (types others : List ConditionType) :
    let set := of happy types
    set.dependents.Nodup ∧ happy ∉ set.dependents ∧
    (∀ type, type ∈ set.dependents ↔ type ∈ types ∧ type ≠ happy) ∧
    set.dependents.Pairwise (fun first second => types.idxOf first < types.idxOf second) ∧
    set.declared.Nodup ∧
    (∀ type, set.isDeclared type = true ↔ type = happy ∨ type ∈ types) ∧
    (∀ type, set.severity type = .error ↔ type = happy ∨ type ∈ types) ∧
    of happy set.dependents = set ∧
    set.dependents <+: (of happy (types ++ others)).dependents := by
  intro set
  have hseverity (type : ConditionType) :
      set.severity type = .error ↔ type = happy ∨ type ∈ types :=
    (set.severity_eq_error_iff type).trans isDeclared_of_iff
  exact ⟨set.nodup, set.happy_notMem, fun type => mem_dependents_of, pairwise_idxOf_dependents_of,
    set.nodup_declared, fun type => isDeclared_of_iff, hseverity, set.of_dependents,
    dependents_of_prefix_append⟩

example : (of .ready [⟨"First"⟩, .ready, ⟨"Second"⟩, ⟨"First"⟩]).dependents =
    [⟨"First"⟩, ⟨"Second"⟩] := by
  decide

end ConditionSet

end StatusRouter
