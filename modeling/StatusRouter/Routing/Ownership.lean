import StatusRouter.Routing.ResourceId

/-!
# Records of ownership

Which owners each subordinate was last seen with.  A subordinate without owners has no record, and
none has two.
-/

namespace StatusRouter

/-- The recorded owners of subordinates. -/
structure Ownership where
  records : List (ResourceId × List ResourceId)
  nodup : (records.map Prod.fst).Nodup
  ne_nil : ∀ record ∈ records, record.2 ≠ []
  deriving DecidableEq

namespace Ownership

def empty : Ownership := ⟨[], .nil, by simp⟩

/-- The number of subordinates that have owners. -/
def size (ownership : Ownership) : Nat := ownership.records.length

/-- The recorded owners of a subordinate. -/
def owners (ownership : Ownership) (subordinate : ResourceId) : List ResourceId :=
  (ownership.records.lookup subordinate).getD []

/-- The records of all other subordinates. -/
def without (ownership : Ownership) (subordinate : ResourceId) :
    List (ResourceId × List ResourceId) :=
  ownership.records.filter fun record => record.1 ≠ subordinate

/-- Forgets a subordinate. -/
def erase (ownership : Ownership) (subordinate : ResourceId) : Ownership :=
  { records := ownership.without subordinate
    nodup := (List.filter_sublist.map Prod.fst).nodup ownership.nodup
    ne_nil := fun record h => ownership.ne_nil record (List.mem_filter.1 h).1 }

theorem lookup_without (ownership : Ownership) (subordinate other : ResourceId) :
    (ownership.without subordinate).lookup other =
      if other = subordinate then none else ownership.records.lookup other := by
  unfold without
  induction ownership.records with
  | nil => split <;> rfl
  | cons record rest ih =>
    obtain ⟨key, owners⟩ := record
    rw [List.filter_cons]
    by_cases hkey : key = subordinate
    · rw [if_neg (by simp [hkey]), ih, lookup_cons_ite]
      by_cases h : other = subordinate
      · rw [if_pos h, if_pos h]
      · rw [if_neg h, if_neg h, if_neg (hkey ▸ h)]
    · rw [if_pos (by simp [hkey]), lookup_cons_ite, lookup_cons_ite, ih]
      by_cases h : other = key
      · rw [if_pos h, if_pos h, if_neg (h ▸ hkey)]
      · rw [if_neg h, if_neg h]

@[simp] theorem owners_empty (subordinate : ResourceId) : empty.owners subordinate = [] := rfl

/-- A forgotten subordinate has no owners, and all others keep theirs. -/
theorem owners_erase (ownership : Ownership) (subordinate other : ResourceId) :
    (ownership.erase subordinate).owners other =
      if other = subordinate then [] else ownership.owners other := by
  rw [owners, erase, lookup_without]
  split <;> rfl

/-- Records the owners of a subordinate, or forgets it if there are none. -/
def set (ownership : Ownership) (subordinate : ResourceId) (owners : List ResourceId) :
    Ownership :=
  if h : owners = [] then ownership.erase subordinate
  else
    { records := (subordinate, owners) :: ownership.without subordinate
      nodup := by
        rw [List.map_cons, List.nodup_cons]
        refine ⟨?_, (ownership.erase subordinate).nodup⟩
        intro hmem
        obtain ⟨record, hrecord, hkey⟩ := List.mem_map.1 hmem
        have := (List.mem_filter.1 hrecord).2
        simp [hkey] at this
      ne_nil := by
        intro record hrecord
        rcases List.mem_cons.1 hrecord with rfl | hrecord
        · exact h
        · exact (ownership.erase subordinate).ne_nil record hrecord }

/-- A subordinate has the owners that were recorded last, and all others keep theirs. -/
theorem owners_set (ownership : Ownership) (subordinate other : ResourceId)
    (owners : List ResourceId) :
    (ownership.set subordinate owners).owners other =
      if other = subordinate then owners else ownership.owners other := by
  unfold set
  split
  · rename_i hnil
    rw [owners_erase, hnil]
  · rw [Ownership.owners, lookup_cons_ite, lookup_without]
    by_cases h : other = subordinate
    · rw [if_pos h, if_pos h]
      rfl
    · rw [if_neg h, if_neg h, if_neg h]
      rfl

end Ownership

end StatusRouter
