import Mathlib.Data.Set.Card
import StatusRouter.Routing.Ownership

/-!
# Revisions of the records

All that an index does to its records is to revise them one after another: a subordinate is seen
with other owners than before, or with none.  A revision offers the keys of the owners that the
subordinate now has and of those that it had.  So the keys that several revisions offer are the
owners they give, and the owners that were recorded for the subordinates they revise
(`mem_offersAll`); if it changed which subordinates an owner has, its key is among them
(`mem_offersAll_of_changed`).  The number of records is that of the subordinates with owners.
-/

namespace StatusRouter

/-- A subordinate is seen with other owners, or with none. -/
structure Revision where
  subordinate : ResourceId
  owners : List ResourceId
  deriving DecidableEq

/-- The revision after which a subordinate has no owners. -/
def Revision.forgetting (subordinate : ResourceId) : Revision := ⟨subordinate, []⟩

namespace Ownership

/-- The records after a revision. -/
def revise (ownership : Ownership) (revision : Revision) : Ownership :=
  ownership.set revision.subordinate revision.owners

/-- The records after revisions. -/
def reviseAll (ownership : Ownership) (revisions : List Revision) : Ownership :=
  revisions.foldl revise ownership

/-- The keys that a revision offers: the owners it gives, and then the recorded ones that it takes
away. -/
def offers (ownership : Ownership) (revision : Revision) : List ResourceId :=
  revision.owners ++
    (ownership.owners revision.subordinate).filter fun owner => owner ∉ revision.owners

/-- The keys that revisions offer, one after another. -/
def offersAll (ownership : Ownership) : List Revision → List ResourceId
  | [] => []
  | revision :: rest => ownership.offers revision ++ (ownership.revise revision).offersAll rest

variable {ownership : Ownership} {revision : Revision} {revisions later : List Revision}
  {key owner : ResourceId}

@[simp] theorem reviseAll_nil : ownership.reviseAll [] = ownership := rfl

@[simp] theorem reviseAll_cons :
    ownership.reviseAll (revision :: revisions) = (ownership.revise revision).reviseAll revisions :=
  rfl

theorem reviseAll_append :
    ownership.reviseAll (revisions ++ later) = (ownership.reviseAll revisions).reviseAll later :=
  List.foldl_append

theorem offersAll_append :
    ownership.offersAll (revisions ++ later) =
      ownership.offersAll revisions ++ (ownership.reviseAll revisions).offersAll later := by
  induction revisions generalizing ownership with
  | nil => rfl
  | cons revision revisions ih =>
      rw [List.cons_append, offersAll, ih, offersAll, reviseAll_cons, List.append_assoc]

/-! ## What revisions record -/

theorem owners_revise :
    (ownership.revise revision).owners key =
      if key = revision.subordinate then revision.owners else ownership.owners key :=
  owners_set ownership revision.subordinate key revision.owners

theorem owners_reviseAll_of_forall_ne (h : ∀ revision ∈ revisions, key ≠ revision.subordinate) :
    (ownership.reviseAll revisions).owners key = ownership.owners key := by
  induction revisions generalizing ownership with
  | nil => rfl
  | cons revision revisions ih =>
      obtain ⟨hfirst, hrest⟩ := List.forall_mem_cons.mp h
      rw [reviseAll_cons, ih hrest, owners_revise, if_neg hfirst]

theorem owners_reviseAll_forgetting {ids : List ResourceId} :
    (ownership.reviseAll (ids.map .forgetting)).owners key =
      if key ∈ ids then [] else ownership.owners key := by
  induction ids generalizing ownership with
  | nil => simp
  | cons id ids ih =>
      rw [List.map_cons, reviseAll_cons, ih, owners_revise]
      by_cases hmem : key ∈ ids
      · simp [hmem]
      · by_cases hsame : key = id <;> simp [hmem, hsame, Revision.forgetting]

/-- An owner that a subordinate has after revisions is one that it had, or one that a revision gave
it. -/
theorem mem_owners_reviseAll (h : owner ∈ (ownership.reviseAll revisions).owners key) :
    owner ∈ ownership.owners key ∨ ∃ revision ∈ revisions, owner ∈ revision.owners := by
  induction revisions generalizing ownership with
  | nil => exact Or.inl h
  | cons revision revisions ih =>
      rcases ih h with hmem | ⟨other, hother, hmem⟩
      · rw [owners_revise] at hmem
        split at hmem
        · exact Or.inr ⟨revision, List.mem_cons_self, hmem⟩
        · exact Or.inl hmem
      · exact Or.inr ⟨other, List.mem_cons_of_mem revision hother, hmem⟩

/-! ## What revisions offer -/

@[simp] theorem offersAll_singleton : ownership.offersAll [revision] = ownership.offers revision := by
  rw [offersAll, offersAll, List.append_nil]

@[simp] theorem offers_forgetting :
    ownership.offers (.forgetting key) = ownership.owners key := by
  simp [offers, Revision.forgetting]

theorem mem_offers :
    owner ∈ ownership.offers revision ↔
      owner ∈ revision.owners ∨ owner ∈ ownership.owners revision.subordinate := by
  by_cases h : owner ∈ revision.owners <;> simp [offers, h]

/-- Revisions offer the owners that they give, and those that were recorded before for the
subordinates that they revise. -/
theorem mem_offersAll :
    owner ∈ ownership.offersAll revisions ↔
      ∃ revision ∈ revisions,
        owner ∈ revision.owners ∨ owner ∈ ownership.owners revision.subordinate := by
  induction revisions generalizing ownership with
  | nil => simp [offersAll]
  | cons first rest ih =>
      rw [offersAll, List.mem_append, mem_offers, ih]
      constructor
      · rintro (hfirst | ⟨revision, hrevision, hgiven | hrecorded⟩)
        · exact ⟨first, List.mem_cons_self, hfirst⟩
        · exact ⟨revision, List.mem_cons_of_mem first hrevision, Or.inl hgiven⟩
        · -- what is recorded after the first revision was given by it, or was recorded before it
          rw [owners_revise] at hrecorded
          split at hrecorded
          · exact ⟨first, List.mem_cons_self, Or.inl hrecorded⟩
          · exact ⟨revision, List.mem_cons_of_mem first hrevision, Or.inr hrecorded⟩
      · rintro ⟨revision, hrevision, howner⟩
        rcases List.mem_cons.mp hrevision with rfl | hrest
        · exact Or.inl howner
        · rcases howner with hgiven | hrecorded
          · exact Or.inr ⟨revision, hrest, Or.inl hgiven⟩
          · by_cases hsame : revision.subordinate = first.subordinate
            · exact Or.inl (Or.inr (hsame ▸ hrecorded))
            · refine Or.inr ⟨revision, hrest, Or.inr ?_⟩
              rw [owners_revise, if_neg hsame]
              exact hrecorded

/-- If revisions change whether a subordinate has an owner, they offer the key of the owner. -/
theorem mem_offersAll_of_changed
    (h : ¬ (owner ∈ ownership.owners key ↔ owner ∈ (ownership.reviseAll revisions).owners key)) :
    owner ∈ ownership.offersAll revisions := by
  rw [mem_offersAll]
  by_cases hbefore : owner ∈ ownership.owners key
  · by_cases hrevised : ∃ revision ∈ revisions, revision.subordinate = key
    · obtain ⟨revision, hrevision, hkey⟩ := hrevised
      exact ⟨revision, hrevision, Or.inr (hkey ▸ hbefore)⟩
    · -- a subordinate that is not revised has its owner still
      have hkept : (ownership.reviseAll revisions).owners key = ownership.owners key :=
        owners_reviseAll_of_forall_ne fun revision hrevision heq =>
          hrevised ⟨revision, hrevision, heq.symm⟩
      exact absurd (by rw [hkept]) h
  · by_cases hafter : owner ∈ (ownership.reviseAll revisions).owners key
    · obtain ⟨revision, hrevision, hgiven⟩ := (mem_owners_reviseAll hafter).resolve_left hbefore
      exact ⟨revision, hrevision, Or.inl hgiven⟩
    · exact absurd (iff_of_false hbefore hafter) h

/-! ## The number of records -/

theorem mem_map_fst_records :
    key ∈ ownership.records.map Prod.fst ↔ ownership.owners key ≠ [] := by
  unfold owners
  cases hlookup : ownership.records.lookup key with
  | none =>
      have hnone := List.lookup_eq_none_iff.mp hlookup
      refine iff_of_false (fun hmem => ?_) (by simp)
      obtain ⟨record, hrecord, hkey⟩ := List.mem_map.mp hmem
      exact absurd hkey.symm (by simpa using hnone record hrecord)
  | some found =>
      obtain ⟨front, back, hrecords, -⟩ := List.lookup_eq_some_iff.mp hlookup
      have hrecord : (key, found) ∈ ownership.records := by simp [hrecords]
      exact iff_of_true (List.mem_map_of_mem hrecord) (ownership.ne_nil _ hrecord)

/-- The size of the records is the number of subordinates that have owners. -/
theorem size_eq_ncard (ownership : Ownership) :
    ownership.size = {key | ownership.owners key ≠ []}.ncard := by
  have hset : {key | ownership.owners key ≠ []} =
      ((ownership.records.map Prod.fst).toFinset : Set ResourceId) := by
    ext key
    simp only [Set.mem_ofPred_eq, List.coe_toFinset, mem_map_fst_records]
  rw [hset, Set.ncard_coe_finset, List.toFinset_card_of_nodup ownership.nodup, List.length_map, size]

theorem size_congr {other : Ownership}
    (h : ∀ key, ownership.owners key = other.owners key) : ownership.size = other.size := by
  rw [size_eq_ncard, size_eq_ncard]
  simp only [h]

end Ownership

end StatusRouter
