import StatusRouter.Proofs.Shape.Faithful
import StatusRouter.Shape.Schema

/-!
# Objects without some of their members

When members of an object are taken away, what the object is read as depends on their fields.  A
field that must be there is missed, and reported by its key (`Shape.decode_without_required`).  Any
other field then stands for its initial value, and the fields of the other members keep theirs
(`Shape.decode_without`).

Both hold of every rearrangement of what a record is written as, if the shape of the record is
faithful and every field that may be missing has an initial value (`Fields.isSparing`).
-/

namespace StatusRouter

open Json (Mismatch Rearranged)

namespace Json

/-- An object without the members with these keys. -/
def without (keys : List String) : Json → Json
  | .object members => .object (members.filter fun member => member.1 ∉ keys)
  | other => other

theorem without_nil (j : Json) : j.without [] = j := by
  cases j with
  | object members =>
      exact congrArg object (List.filter_eq_self.mpr fun _ _ => decide_eq_true List.not_mem_nil)
  | _ => rfl

theorem Rearranged.members_without {given : List (String × Json)} {j : Json}
    (h : Rearranged (.object given) j) (hgiven : (given.map Prod.fst).Nodup) (keys : List String) :
    ∃ members, j.without keys = .object members ∧ (members.map Prod.fst).Nodup ∧
      (∀ key, key ∈ members.map Prod.fst ↔ key ∈ given.map Prod.fst ∧ key ∉ keys) ∧
      ∀ member ∈ members, ∃ value, (member.1, value) ∈ given ∧ Rearranged value member.2 := by
  obtain ⟨others, rfl, horder, hothers⟩ := h.exists_members
  have hkept : (others.filter fun member => member.1 ∉ keys).Sublist others := List.filter_sublist
  refine ⟨_, rfl, (horder.nodup_iff.mpr hgiven).sublist (hkept.map Prod.fst), fun key => ?_,
    fun member hmember => hothers member (hkept.subset hmember)⟩
  rw [← horder.mem_iff]
  simp only [List.mem_map, List.mem_filter, decide_eq_true_eq]
  constructor
  · rintro ⟨member, ⟨hmember, hkey⟩, rfl⟩
    exact ⟨⟨member, hmember, rfl⟩, hkey⟩
  · rintro ⟨⟨member, hmember, rfl⟩, hkey⟩
    exact ⟨member, ⟨hmember, hkey⟩, rfl⟩

end Json

theorem FieldInfo.missing_eq_error {α : Type} {info : FieldInfo} {initial? : Option α}
    (h : info.presence = .required) : info.missing initial? = .error (.missingField info.key) := by
  unfold missing
  rw [h]

namespace Fields

/-- A record with the fields with these keys set to their initial values, except for those that must
be there. -/
def reset (keys : List String) : (fields : Fields) → fields.Value → fields.Value
  | .nil, _ => ()
  | .cons info s rest, (v, vs) =>
    (if info.presence = .required then v else if info.key ∈ keys then s.initial?.getD v else v,
      rest.reset keys vs)

/-- Whether every field that may be missing has an initial value. -/
def isSparing : Fields → Bool
  | .nil => true
  | .cons info s rest => (info.presence = .required || s.initial?.isSome) && rest.isSparing

variable {key : String} {keys met : List String} {j : Json}

theorem required_subset_keys : (fields : Fields) → fields.required ⊆ fields.keys
  | .nil => List.Subset.refl _
  | .cons info s rest => by
    rw [required]
    split
    · exact List.cons_subset_cons _ rest.required_subset_keys
    · exact fun _ hkey => List.mem_cons_of_mem _ (rest.required_subset_keys hkey)

/-! ## Fields that may be missing -/

theorem reads_reset : (fields : Fields) → (v : fields.Value) → key ∉ keys → fields.Reads v key j →
    fields.Reads (fields.reset keys v) key j
  | .nil, _, _, _ => trivial
  | .cons info s rest, (v, vs), hkept, hreads => by
    rw [Reads] at hreads
    rw [reset, Reads]
    by_cases hkey : key = info.key
    · have hfirst : info.key ∉ keys := hkey ▸ hkept
      rw [if_pos hkey] at hreads ⊢
      rwa [if_neg hfirst, ite_self]
    · rw [if_neg hkey] at hreads ⊢
      exact reads_reset rest vs hkept hreads

/-- What stands for a field that is missing because it was taken away, or left out. -/
theorem spares_reset : (fields : Fields) → fields.isSparing = true → (v : fields.Value) →
    (∀ key ∈ keys, key ∉ fields.required) →
    (∀ key ∈ (fields.encode v).map Prod.fst, key ∉ keys → key ∈ met) →
    fields.Spares (fields.reset keys v) met
  | .nil, _, _, _, _ => trivial
  | .cons info s rest, hsparing, (v, vs), hkeys, hmet => by
    obtain ⟨hfirst, hothers⟩ := (Bool.and_eq_true _ _).mp hsparing
    have hlater (key : String) (hkey : key ∈ keys) : key ∉ rest.required := by
      have hnot := hkeys key hkey
      rw [required] at hnot
      split at hnot
      · exact fun hmem => hnot (List.mem_cons_of_mem _ hmem)
      · exact hnot
    have hmetLater (key : String) (hkey : key ∈ (rest.encode vs).map Prod.fst)
        (hkept : key ∉ keys) : key ∈ met := by
      refine hmet key ?_ hkept
      rw [encode_cons]
      split
      · exact hkey
      · exact List.mem_cons_of_mem _ hkey
    rw [reset]
    refine ⟨fun hnot => ?_, spares_reset rest hothers vs hlater hmetLater⟩
    by_cases hremoved : info.key ∈ keys
    · -- a field that was taken away is none of those that must be there
      have hpresence : info.presence ≠ .required := by
        intro hrequired
        refine hkeys info.key hremoved ?_
        rw [required, if_pos hrequired]
        exact List.mem_cons_self
      rw [if_neg hpresence, if_pos hremoved]
      have hsome : s.initial?.isSome = true := by simpa [hpresence] using hfirst
      obtain ⟨initial, hinitial⟩ := Option.isSome_iff_exists.mp hsome
      exact ⟨hpresence, hinitial ▸ rfl⟩
    · have hleft : info.leavesOut (s.isInitial v) = true := by
        by_contra hwritten
        refine hnot (hmet info.key ?_ hremoved)
        rw [encode_cons, if_neg hwritten]
        exact List.mem_cons_self
      obtain ⟨hpresence, hinitial⟩ := (Bool.and_eq_true _ _).mp hleft
      rw [if_neg hremoved, ite_self]
      refine ⟨fun hrequired => ?_, Shape.initial?_of_isInitial hinitial⟩
      rw [hrequired] at hpresence
      cases hpresence

/-! ## Fields that must be there -/

/-- A field that must be there is reported if it is the only one that is missed. -/
theorem complete_filled_of_required : (fields : Fields) → fields.keys.Nodup → (v : fields.Value) →
    key ∈ fields.required → key ∉ met → fields.Spares v (key :: met) →
    fields.complete (fields.filled v met) = .error (.missingField key)
  | .nil, _, _, hkey, _, _ => absurd hkey List.not_mem_nil
  | .cons info s rest, hkeys, (v, vs), hkey, hnot, ⟨hspare, hspares⟩ => by
    obtain ⟨hnew, hrest⟩ := List.nodup_cons.mp hkeys
    rw [required] at hkey
    by_cases hfirst : key = info.key
    · have hpresence : info.presence = .required := by
        by_contra hpresence
        rw [if_neg hpresence] at hkey
        exact hnew (hfirst ▸ rest.required_subset_keys hkey)
      rw [filled, if_neg (hfirst ▸ hnot)]
      show (do
        let v ← info.missing s.initial?
        return (v, ← rest.complete (rest.filled vs met))) = _
      rw [FieldInfo.missing_eq_error hpresence, hfirst]
      rfl
    · have hlater : key ∈ rest.required := by
        split at hkey
        · exact (List.mem_cons.mp hkey).resolve_left hfirst
        · exact hkey
      have hcomplete := complete_filled_of_required rest hrest vs hlater hnot hspares
      rw [complete_cons_filled fun hmet =>
        hspare (List.not_mem_cons_of_ne_of_not_mem (Ne.symm hfirst) hmet), hcomplete]
      rfl

end Fields

/-! ## Records -/

section Records

variable {info : RecordInfo} {fields : Fields} {v : fields.Value} {j : Json}

theorem Fields.nodup_keys_of_isFaithful (h : (Shape.record info fields).isFaithful = true) :
    fields.keys.Nodup :=
  of_decide_eq_true ((Bool.and_eq_true _ _).mp h).1

/-- The members that are left of what a record is written as read as its fields. -/
theorem Fields.reads_without (hfaithful : (Shape.record info fields).isFaithful = true)
    (hj : Rearranged ((Shape.record info fields).encode v) j) (keys : List String) :
    ∃ members, j.without keys = .object members ∧ (members.map Prod.fst).Nodup ∧
      (∀ key, key ∈ members.map Prod.fst ↔ key ∈ (fields.encode v).map Prod.fst ∧ key ∉ keys) ∧
      ∀ member ∈ members, fields.Reads v member.1 member.2 := by
  have hnodup := nodup_keys_of_isFaithful hfaithful
  obtain ⟨members, hmembers, hdistinct, hmem, hvalues⟩ := Rearranged.members_without hj
    (hnodup.sublist (keys_encode_sublist fields v)) keys
  refine ⟨members, hmembers, hdistinct, hmem, fun member hmember => ?_⟩
  obtain ⟨value, hvalue, hrearranged⟩ := hvalues member hmember
  exact reads_of_rearranged fields ((Bool.and_eq_true _ _).mp hfaithful).2 hnodup v hvalue hrearranged

/-- A record whose members were taken away is read with the initial values in their place, if none
of the fields must be there. -/
theorem Shape.decode_without (hfaithful : (Shape.record info fields).isFaithful = true)
    (hsparing : fields.isSparing = true) {keys : List String}
    (hkeys : ∀ key ∈ keys, key ∉ fields.required)
    (hj : Rearranged ((Shape.record info fields).encode v) j) :
    (Shape.record info fields).decode (j.without keys) = .ok (fields.reset keys v) := by
  obtain ⟨members, hmembers, hdistinct, hmem, hreads⟩ := Fields.reads_without hfaithful hj keys
  rw [hmembers]
  refine Fields.decode_object (Fields.nodup_keys_of_isFaithful hfaithful)
    (fun member hmember => ?_) hdistinct
    (Fields.spares_reset fields hsparing v hkeys fun key hkey hnot => (hmem key).mpr ⟨hkey, hnot⟩)
  have hkept : member.1 ∉ keys := ((hmem member.1).mp (List.mem_map_of_mem hmember)).2
  exact Fields.reads_reset fields v hkept (hreads member hmember)

/-- A record is not read if the member of a field that must be there was taken away. -/
theorem Shape.decode_without_required (hfaithful : (Shape.record info fields).isFaithful = true)
    {key : String} (hkey : key ∈ fields.required)
    (hj : Rearranged ((Shape.record info fields).encode v) j) :
    (Shape.record info fields).decode (j.without [key]) = .error (.missingField key) := by
  have hnodup := Fields.nodup_keys_of_isFaithful hfaithful
  obtain ⟨members, hmembers, hdistinct, hmem, hreads⟩ := Fields.reads_without hfaithful hj [key]
  rw [hmembers]
  have hslots : members.foldlM
      (fun slots (member : String × Json) => fields.put info.form slots member.1 member.2)
      (fields.filled v []) = .ok (fields.filled v ([] ++ members.map Prod.fst)) :=
    Fields.foldlM_put_filled hnodup hreads hdistinct
  rw [Fields.filled_nil, List.nil_append] at hslots
  have hnot : key ∉ members.map Prod.fst := fun h => ((hmem key).mp h).2 List.mem_cons_self
  have hspares : fields.Spares v (key :: members.map Prod.fst) := by
    refine Fields.spares_encode fields v fun other hother => ?_
    by_cases heq : other = key
    · exact heq ▸ List.mem_cons_self
    · exact List.mem_cons_of_mem _ ((hmem other).mpr ⟨hother, mt List.mem_singleton.mp heq⟩)
  show (members.foldlM _ fields.noSlots >>= fields.complete) = _
  rw [hslots]
  exact Fields.complete_filled_of_required fields hnodup v hkey hnot hspares

end Records

end StatusRouter
