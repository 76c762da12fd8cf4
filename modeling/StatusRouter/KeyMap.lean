/-!
# Maps with text keys

A map from texts to values, such as the labels of an object.  Its entries are listed in ascending
order of their keys, compared by code point, and no key occurs twice, so two maps with the same
entries are equal.
-/

namespace StatusRouter

variable {α : Type}

/-- Looking up a key in a list of pairs goes through the pairs in order. -/
theorem lookup_cons_ite {κ : Type} [DecidableEq κ] (key k : κ) (value : α) (rest : List (κ × α)) :
    ((k, value) :: rest).lookup key = if key = k then some value else rest.lookup key := by
  by_cases h : key = k
  · rw [if_pos h, h, List.lookup_cons_self]
  · rw [if_neg h, List.lookup_cons, beq_eq_false_iff_ne.2 h]

/-- A map from texts to values, listed in ascending order of its keys. -/
structure KeyMap (α : Type) where
  entries : List (String × α)
  ascending : entries.Pairwise fun a b => a.1 < b.1
  deriving DecidableEq

namespace KeyMap

def empty : KeyMap α := ⟨[], .nil⟩

def isEmpty (m : KeyMap α) : Bool := m.entries.isEmpty

/-- The value of a key. -/
def get? (m : KeyMap α) (key : String) : Option α :=
  m.entries.lookup key

/-- The entries with the value of one key replaced, or the key added at its place. -/
def insertEntry (key : String) (value : α) : List (String × α) → List (String × α)
  | [] => [(key, value)]
  | (k, v) :: rest =>
    if key < k then (key, value) :: (k, v) :: rest
    else if key = k then (key, value) :: rest
    else (k, v) :: insertEntry key value rest

theorem mem_insertEntry {key : String} {value : α} {entry : String × α} :
    ∀ {entries : List (String × α)}, entry ∈ insertEntry key value entries →
      entry = (key, value) ∨ entry ∈ entries
  | [], h => by simpa [insertEntry] using h
  | (k, v) :: rest, h => by
    unfold insertEntry at h
    split at h
    · simpa using h
    · split at h
      · simp only [List.mem_cons] at h ⊢
        exact h.imp id Or.inr
      · simp only [List.mem_cons] at h ⊢
        rcases h with h | h
        · exact Or.inr (Or.inl h)
        · exact (mem_insertEntry h).imp id Or.inr

theorem ascending_insertEntry (key : String) (value : α) :
    ∀ {entries : List (String × α)}, entries.Pairwise (fun a b => a.1 < b.1) →
      (insertEntry key value entries).Pairwise fun a b => a.1 < b.1
  | [], _ => by simp [insertEntry]
  | (k, v) :: rest, h => by
    have hrest := List.pairwise_cons.1 h
    unfold insertEntry
    split
    · rename_i hlt
      refine List.pairwise_cons.2 ⟨?_, h⟩
      intro entry hentry
      rcases List.mem_cons.1 hentry with rfl | hentry
      · exact hlt
      · exact String.lt_trans hlt (hrest.1 entry hentry)
    · split
      · rename_i heq
        subst heq
        exact List.pairwise_cons.2 ⟨hrest.1, hrest.2⟩
      · rename_i hlt hne
        refine List.pairwise_cons.2 ⟨?_, ascending_insertEntry key value hrest.2⟩
        intro entry hentry
        rcases mem_insertEntry hentry with rfl | hentry
        · rcases Decidable.em (k < key) with h' | h'
          · exact h'
          · exact absurd (String.le_antisymm (String.not_lt.1 h') (String.not_lt.1 hlt)) hne
        · exact hrest.1 entry hentry

/-- The map with the value of one key set. -/
def insert (m : KeyMap α) (key : String) (value : α) : KeyMap α :=
  ⟨insertEntry key value m.entries, ascending_insertEntry key value m.ascending⟩

theorem lookup_insertEntry (key other : String) (value : α) (entries : List (String × α)) :
    (insertEntry key value entries).lookup other =
      if other = key then some value else entries.lookup other := by
  induction entries with
  | nil => exact lookup_cons_ite other key value []
  | cons entry rest ih =>
    obtain ⟨k, v⟩ := entry
    unfold insertEntry
    split
    · rw [lookup_cons_ite]
    · split
      · rename_i heq
        subst heq
        rw [lookup_cons_ite, lookup_cons_ite]
        split <;> rfl
      · rename_i hne
        rw [lookup_cons_ite, lookup_cons_ite, ih]
        by_cases h : other = key
        · rw [if_pos h, if_pos h, if_neg (h ▸ hne)]
        · rw [if_neg h, if_neg h]

/-- Setting a value is seen under its key and nowhere else. -/
theorem get?_insert (m : KeyMap α) (key other : String) (value : α) :
    (m.insert key value).get? other = if other = key then some value else m.get? other :=
  lookup_insertEntry key other value m.entries

/-- The map of a list of entries; the last of several values for one key counts. -/
def ofList (entries : List (String × α)) : KeyMap α :=
  entries.foldl (fun m entry => m.insert entry.1 entry.2) empty

theorem perm_insertEntry {key : String} {value : α} {entries : List (String × α)}
    (h : key ∉ entries.map Prod.fst) :
    (insertEntry key value entries).Perm ((key, value) :: entries) := by
  induction entries with
  | nil => exact .refl _
  | cons entry rest ih =>
    obtain ⟨k, v⟩ := entry
    obtain ⟨hkey, hrest⟩ := not_or.mp (mt List.mem_cons.mpr h)
    unfold insertEntry
    rw [if_neg hkey]
    split
    · exact .refl _
    · exact ((ih hrest).cons (k, v)).trans (.swap ..)

theorem perm_foldl_insert {entries : List (String × α)} (m : KeyMap α)
    (h : ((m.entries ++ entries).map Prod.fst).Nodup) :
    (entries.foldl (fun m entry => m.insert entry.1 entry.2) m).entries.Perm
      (m.entries ++ entries) := by
  induction entries generalizing m with
  | nil => rw [List.append_nil]; exact .refl _
  | cons entry rest ih =>
    have hmiddle : (m.entries ++ entry :: rest).Perm (entry :: m.entries ++ rest) :=
      List.perm_middle
    have hnodup : ((entry :: m.entries ++ rest).map Prod.fst).Nodup :=
      (hmiddle.map Prod.fst).nodup_iff.mp h
    have hnew : entry.1 ∉ m.entries.map Prod.fst := fun hmem =>
      (List.nodup_cons.mp hnodup).1 (List.map_subset _ (List.subset_append_left ..) hmem)
    have hinsert : (m.insert entry.1 entry.2).entries.Perm (entry :: m.entries) :=
      perm_insertEntry hnew
    have hinserted : ((m.insert entry.1 entry.2).entries ++ rest).Perm (entry :: m.entries ++ rest) :=
      hinsert.append_right rest
    rw [List.foldl_cons]
    exact (ih _ ((hinserted.map Prod.fst).nodup_iff.mpr hnodup)).trans
      (hinserted.trans hmiddle.symm)

/-- A map is made anew from its entries, in whatever order they come. -/
theorem ofList_of_perm {m : KeyMap α} {entries : List (String × α)} (h : entries.Perm m.entries) :
    ofList entries = m := by
  have hnodup : (m.entries.map Prod.fst).Nodup := by
    rw [List.Nodup, List.pairwise_map]
    refine m.ascending.imp fun {a b} hlt heq => ?_
    rw [heq] at hlt
    exact String.lt_irrefl _ hlt
  have hperm : (ofList entries).entries.Perm m.entries :=
    (perm_foldl_insert empty ((h.map Prod.fst).nodup_iff.mpr hnodup)).trans h
  have hentries : (ofList entries).entries = m.entries :=
    hperm.eq_of_pairwise (fun _ _ _ _ hab hba => absurd hba (String.lt_asymm hab))
      (ofList entries).ascending m.ascending
  generalize ofList entries = made at hentries
  obtain ⟨_, _⟩ := made
  obtain ⟨_, _⟩ := m
  obtain rfl := hentries
  rfl

end KeyMap

end StatusRouter
