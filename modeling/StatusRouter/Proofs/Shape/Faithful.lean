import Mathlib.Data.List.Nodup
import Mathlib.Data.List.Perm.Basic
import StatusRouter.Proofs.Shape.Record
import StatusRouter.Proofs.Time.Text
import StatusRouter.Shape.Encode

/-!
# What is written is read back

A shape is faithful if what is written in it can be told apart when it is read.  Three things could
go wrong: two names of a choice or two keys of a record could be the same, a null could stand for
two values, and a field that is left out could stand for another value than the one it was left out
for.  The last cannot happen in any shape (`Shape.initial?_of_isInitial`), and the others are looked
for by `Shape.isFaithful`.

In a faithful shape, every value is read back from what it is written as
(`Shape.decode_of_rearranged`), also when the members of objects were put in another order on the
way, as they are by who keeps objects in the order of their keys.
-/

namespace StatusRouter

open Json (Mismatch)

/-! ## Rearrangements -/

namespace Json

mutual

/-- The same value, with the members of objects in any order, at any depth. -/
inductive Rearranged : Json → Json → Prop
  | same (j : Json) : Rearranged j j
  | array {items others : List Json} (h : List.Forall₂ Rearranged items others) :
      Rearranged (.array items) (.array others)
  | object {members between others : List (String × Json)}
      (h : List.Forall₂ RearrangedMember members between) (horder : between.Perm others) :
      Rearranged (.object members) (.object others)

/-- A member with the same key and a rearranged value. -/
inductive RearrangedMember : String × Json → String × Json → Prop
  | mk (key : String) {value other : Json} (h : Rearranged value other) :
      RearrangedMember (key, value) (key, other)

end

variable {j : Json} {items : List Json} {members : List (String × Json)}

theorem Rearranged.exists_of_array (h : Rearranged (.array items) j) :
    ∃ others, j = .array others ∧ List.Forall₂ Rearranged items others := by
  cases h with
  | same => exact ⟨items, rfl, List.forall₂_same.mpr fun item _ => .same item⟩
  | array h => exact ⟨_, rfl, h⟩

theorem Rearranged.exists_of_object (h : Rearranged (.object members) j) :
    ∃ between others, j = .object others ∧ List.Forall₂ RearrangedMember members between ∧
      between.Perm others := by
  cases h with
  | same =>
      exact ⟨members, members, rfl, List.forall₂_same.mpr fun member _ => .mk member.1 (.same _),
        .refl members⟩
  | object h horder => exact ⟨_, _, rfl, h, horder⟩

theorem map_fst_eq_of_rearranged {between : List (String × Json)}
    (h : List.Forall₂ RearrangedMember members between) :
    between.map Prod.fst = members.map Prod.fst := by
  induction h with
  | nil => rfl
  | cons hmember _ ih =>
      obtain ⟨key, -⟩ := hmember
      rw [List.map_cons, List.map_cons, ih]

theorem exists_of_mem_rearranged {between : List (String × Json)} {member : String × Json}
    (h : List.Forall₂ RearrangedMember members between) (hmem : member ∈ between) :
    ∃ value, (member.1, value) ∈ members ∧ Rearranged value member.2 := by
  induction h with
  | nil => exact absurd hmem List.not_mem_nil
  | cons hmember _ ih =>
      rcases List.mem_cons.mp hmem with rfl | hrest
      · obtain ⟨key, hvalue⟩ := hmember
        exact ⟨_, List.mem_cons_self, hvalue⟩
      · obtain ⟨value, hvalue, hrearranged⟩ := ih hrest
        exact ⟨value, List.mem_cons_of_mem _ hvalue, hrearranged⟩

/-- The members of a rearranged object stand for those of the object, one for one. -/
theorem Rearranged.exists_members (h : Rearranged (.object members) j) :
    ∃ others, j = .object others ∧ (others.map Prod.fst).Perm (members.map Prod.fst) ∧
      ∀ other ∈ others, ∃ value, (other.1, value) ∈ members ∧ Rearranged value other.2 := by
  obtain ⟨between, others, rfl, hmembers, horder⟩ := h.exists_of_object
  refine ⟨others, rfl, ?_, fun other hother => ?_⟩
  · exact map_fst_eq_of_rearranged hmembers ▸ (horder.symm.map Prod.fst)
  · exact exists_of_mem_rearranged hmembers (horder.mem_iff.mpr hother)

theorem Rearranged.ne_null {i : Json} (h : Rearranged i j) (hi : i ≠ .null) : j ≠ .null := by
  cases h with
  | same => exact hi
  | array _ => exact Json.noConfusion
  | object _ _ => exact Json.noConfusion

end Json

/-! ## Values that are no records -/

namespace Width

variable {w : Width}

theorem ofInt_toInt (i : w.Carrier) : w.ofInt (w.toInt i) = i := by
  cases w with
  | int32 => exact Int32.ofInt_toInt i
  | int64 => exact Int64.ofInt_toInt i
  | uint16 => exact UInt16.ofNat_toNat

theorem toInt_mem (i : w.Carrier) : w.low ≤ w.toInt i ∧ w.toInt i ≤ w.high := by
  cases w with
  | int32 => exact ⟨Int32.le_toInt i, Int32.toInt_le i⟩
  | int64 => exact ⟨Int64.le_toInt i, Int64.toInt_le i⟩
  | uint16 =>
      have h := UInt16.toNat_lt i
      simp only [low, high, toInt]
      omega

theorem decode_toInt (i : w.Carrier) : w.decode (.int (w.toInt i)) = .ok i := by
  have hsome : w.ofInt? (w.toInt i) = some i := by
    rw [ofInt?, if_pos (toInt_mem i), ofInt_toInt]
  simp only [decode, hsome]

end Width

theorem Instant.decode_text (t : Instant) : Instant.decode (.string t.text) = .ok t := by
  rw [Instant.decode, Instant.ofText_text]
  rfl

theorem Choice.ofName_variant {c : Choice} (h : c.variants.Nodup) (i : Fin c.variants.length) :
    c.ofName (c.variants.get i) = .ok i := by
  have hfound : c.variants.finIdxOf? (c.variants.get i) = some i := by
    rw [List.finIdxOf?_eq_some_iff]
    refine ⟨rfl, fun j hj heq => ?_⟩
    have hsame : (j : Nat) = i := (List.Nodup.getElem_inj_iff h).mp heq
    exact Nat.ne_of_lt hj hsame
  simp only [ofName, hfound]

theorem mapM_eq_ok {ε α β : Type} {f : β → Except ε α} {values : List α} {forms : List β}
    (h : List.Forall₂ (fun value form => f form = .ok value) values forms) :
    forms.mapM f = .ok values := by
  induction h with
  | nil => rfl
  | cons hfirst _ ih =>
      rw [List.mapM_cons, hfirst, ih]
      rfl

namespace Shape

/-- Only the initial value is taken for it. -/
theorem initial?_of_isInitial {s : Shape} {v : s.Value} (h : s.isInitial v = true) :
    s.initial? = some v := by
  cases s with
  | string => exact congrArg some (String.isEmpty_iff.mp h).symm
  | boolean => exact congrArg some ((Bool.not_eq_true' v).mp h).symm
  | time => exact absurd h Bool.false_ne_true
  | wholeTime => exact absurd h Bool.false_ne_true
  | any =>
      cases v with
      | null => rfl
      | _ => exact absurd h Bool.false_ne_true
  | integer w =>
      have hzero : w.toInt v = 0 := eq_of_beq h
      exact congrArg some (hzero ▸ Width.ofInt_toInt v)
  | choice c =>
      have hzero : Fin.val v = 0 := eq_of_beq h
      have hpos : 0 < c.variants.length := hzero ▸ Fin.isLt v
      exact (dif_pos hpos).trans (congrArg some (Fin.ext hzero.symm))
  | list item => exact congrArg some (List.isEmpty_iff.mp h).symm
  | map value =>
      obtain ⟨entries, hascending⟩ := v
      obtain rfl : entries = [] := List.isEmpty_iff.mp h
      rfl
  | optional value => exact congrArg some (Option.isNone_iff_eq_none.mp h).symm
  | record info fields => exact absurd h Bool.false_ne_true

end Shape

/-! ## Faithful shapes -/

/-- Whether a null may stand for a value. -/
def Shape.mayBeNull : Shape → Bool
  | .any => true
  | .optional _ => true
  | _ => false

mutual

/-- Whether what is written in a shape can be told apart: the names of a choice and the keys of a
record are different, and a null stands for no value and for nothing else. -/
def Shape.isFaithful : Shape → Bool
  | .string => true
  | .boolean => true
  | .time => true
  | .wholeTime => false
  | .any => false
  | .integer _ => true
  | .choice c => c.variants.Nodup
  | .list s => s.isFaithful
  | .map s => s.isFaithful
  | .optional s => s.isFaithful && !s.mayBeNull
  | .record _ fields => decide fields.keys.Nodup && fields.isFaithful

/-- Whether the fields of a record are in faithful shapes, and no null is read as something else. -/
def Fields.isFaithful : Fields → Bool
  | .nil => true
  | .cons info s rest => info.presence ≠ .lenient && s.isFaithful && rest.isFaithful

end

theorem Shape.encode_ne_null {s : Shape} (h : s.mayBeNull = false) (v : s.Value) :
    s.encode v ≠ .null := by
  cases s with
  | any => cases h
  | optional s => cases h
  | _ => exact Json.noConfusion

namespace Fields

variable {info : FieldInfo} {s : Shape} {rest : Fields} {v : s.Value} {vs : rest.Value}

theorem encode_cons :
    (cons info s rest).encode (v, vs) =
      if info.leavesOut (s.isInitial v) then rest.encode vs
      else (info.key, s.encode v) :: rest.encode vs := rfl

theorem mem_encode_cons {member : String × Json}
    (h : member ∈ (cons info s rest).encode (v, vs)) :
    member = (info.key, s.encode v) ∨ member ∈ rest.encode vs := by
  rw [encode_cons] at h
  split at h
  · exact Or.inr h
  · exact List.mem_cons.mp h

/-- The member of another key is that of a later field. -/
theorem mem_encode_cons_of_ne {key : String} {value : Json} (hkey : key ≠ info.key)
    (h : (key, value) ∈ (cons info s rest).encode (v, vs)) : (key, value) ∈ rest.encode vs :=
  (mem_encode_cons h).resolve_left fun heq => hkey (congrArg Prod.fst heq)

theorem keys_encode_sublist : (fields : Fields) → (v : fields.Value) →
    ((fields.encode v).map Prod.fst).Sublist fields.keys
  | .nil, _ => .slnil
  | .cons info s rest, (v, vs) => by
    have hrest := keys_encode_sublist rest vs
    rw [encode_cons]
    split
    · exact hrest.cons _
    · exact hrest.cons_cons _

/-- No later field has the key of the first one, so the member of this key is what it was written
as. -/
theorem eq_encode_of_mem_encode_cons {value : Json} (hnew : info.key ∉ rest.keys)
    (h : (info.key, value) ∈ (cons info s rest).encode (v, vs)) : value = s.encode v := by
  have hnot : (info.key, value) ∉ rest.encode vs := fun hmem =>
    hnew ((keys_encode_sublist rest vs).subset (List.mem_map_of_mem hmem))
  exact (Prod.mk.inj ((mem_encode_cons h).resolve_right hnot)).2

/-- A field that is left out may be missing, and stands for the value it was left out for. -/
theorem spares_encode : (fields : Fields) → (v : fields.Value) → {met : List String} →
    (∀ key ∈ (fields.encode v).map Prod.fst, key ∈ met) → fields.Spares v met
  | .nil, _, _, _ => trivial
  | .cons info s rest, (v, vs), met, hmet => by
    rw [encode_cons] at hmet
    by_cases hleft : info.leavesOut (s.isInitial v) = true
    · rw [if_pos hleft] at hmet
      obtain ⟨hpresence, hinitial⟩ := (Bool.and_eq_true _ _).mp hleft
      refine ⟨fun _ => ⟨?_, Shape.initial?_of_isInitial hinitial⟩, spares_encode rest vs hmet⟩
      intro hrequired
      rw [hrequired] at hpresence
      cases hpresence
    · rw [if_neg hleft] at hmet
      obtain ⟨hfirst, hothers⟩ := List.forall_mem_cons.mp hmet
      exact ⟨fun hnot => absurd hfirst hnot, spares_encode rest vs hothers⟩

end Fields

/-- A map is read back if its entries are read back, in whatever order they come. -/
theorem Shape.decode_map {s : Shape} {m : KeyMap s.Value} {between others : List (String × Json)}
    (hread : List.Forall₂ (fun entry member => member.1 = entry.1 ∧ s.decode member.2 = .ok entry.2)
      m.entries between) (horder : between.Perm others) :
    s.map.decode (.object others) = .ok m := by
  obtain ⟨entries, hothers, hentries⟩ := List.perm_comp_forall₂ horder.symm hread.flip
  have hall : others.mapM (fun member => do return (member.1, ← s.decode member.2)) =
      Except.ok entries := by
    refine mapM_eq_ok (hothers.flip.imp fun entry member hmember => ?_)
    obtain ⟨hkey, hvalue⟩ := hmember
    rw [hvalue, hkey]
    rfl
  show (others.mapM _ >>= fun entries => pure (KeyMap.ofList entries)) = _
  rw [hall]
  exact congrArg Except.ok (KeyMap.ofList_of_perm hentries)

theorem Shape.decode_optional {s : Shape} {j : Json} (h : j ≠ .null) :
    s.optional.decode j = some <$> s.decode j := by
  cases j with
  | null => exact absurd rfl h
  | _ => rfl

mutual

/-- A value is read back from any rearrangement of what it is written as. -/
theorem Shape.decode_of_rearranged : (s : Shape) → s.isFaithful = true → (v : s.Value) →
    {j : Json} → Json.Rearranged (s.encode v) j → s.decode j = .ok v
  | .string, _, v, j, hj => by
    cases hj
    rfl
  | .boolean, _, v, j, hj => by
    cases hj
    rfl
  | .time, _, t, j, hj => by
    cases hj
    exact Instant.decode_text t
  | .integer w, _, i, j, hj => by
    cases hj
    exact Width.decode_toInt i
  | .choice c, h, i, j, hj => by
    cases hj
    exact Choice.ofName_variant (of_decide_eq_true h) i
  | .list s, h, items, j, hj => by
    obtain ⟨others, rfl, hitems⟩ := Json.Rearranged.exists_of_array hj
    have hread : List.Forall₂ (fun v form => s.decode form = .ok v) items others :=
      (List.forall₂_map_left_iff.mp hitems).imp fun v form => Shape.decode_of_rearranged s h v
    exact mapM_eq_ok hread
  | .map s, h, m, j, hj => by
    obtain ⟨between, others, rfl, hmembers, horder⟩ := Json.Rearranged.exists_of_object hj
    refine Shape.decode_map
      ((List.forall₂_map_left_iff.mp hmembers).imp fun entry member hmember => ?_) horder
    obtain ⟨key, hvalue⟩ := hmember
    exact ⟨rfl, Shape.decode_of_rearranged s h entry.2 hvalue⟩
  | .optional s, h, v, j, hj => by
    obtain ⟨hs, hnull⟩ := (Bool.and_eq_true _ _).mp h
    cases v with
    | none =>
        cases hj
        rfl
    | some v =>
        -- what is there is not written as a null, so it is not taken for nothing
        have hne : j ≠ .null := hj.ne_null (Shape.encode_ne_null (Bool.not_eq_true' _ ▸ hnull) v)
        rw [Shape.decode_optional hne, Shape.decode_of_rearranged s hs v hj]
        rfl
  | .record info fields, h, v, j, hj => by
    obtain ⟨hkeys, hfields⟩ := (Bool.and_eq_true _ _).mp h
    have hnodup : fields.keys.Nodup := of_decide_eq_true hkeys
    obtain ⟨between, others, rfl, hmembers, horder⟩ := Json.Rearranged.exists_of_object hj
    have hsame : (others.map Prod.fst).Perm ((fields.encode v).map Prod.fst) :=
      Json.map_fst_eq_of_rearranged hmembers ▸ (horder.symm.map Prod.fst)
    refine Fields.decode_object hnodup ?_ ?_ ?_
    · intro member hmem
      obtain ⟨value, hvalue, hrearranged⟩ :=
        Json.exists_of_mem_rearranged hmembers (horder.mem_iff.mpr hmem)
      exact Fields.reads_of_rearranged fields hfields hnodup v hvalue hrearranged
    · exact hsame.nodup_iff.mpr (hnodup.sublist (Fields.keys_encode_sublist fields v))
    · exact Fields.spares_encode fields v fun key hkey => hsame.mem_iff.mpr hkey

/-- Each member of a record is read as the value of its field. -/
theorem Fields.reads_of_rearranged : (fields : Fields) → fields.isFaithful = true →
    fields.keys.Nodup → (v : fields.Value) → {key : String} → {value j : Json} →
    (key, value) ∈ fields.encode v → Json.Rearranged value j → fields.Reads v key j
  | .nil, _, _, _, _, _, _, _, _ => trivial
  | .cons info s rest, h, hkeys, (v, vs), key, value, j, hmem, hj => by
    obtain ⟨hnew, hrest⟩ := List.nodup_cons.mp hkeys
    obtain ⟨hfirst, hothers⟩ := (Bool.and_eq_true _ _).mp h
    obtain ⟨hlenient, hs⟩ := (Bool.and_eq_true _ _).mp hfirst
    rw [Fields.Reads]
    by_cases hkey : key = info.key
    · subst hkey
      obtain rfl := Fields.eq_encode_of_mem_encode_cons hnew hmem
      rw [if_pos rfl]
      exact ⟨Shape.decode_of_rearranged s hs v hj, of_decide_eq_true hlenient⟩
    · rw [if_neg hkey]
      exact Fields.reads_of_rearranged rest hothers hrest vs
        (Fields.mem_encode_cons_of_ne hkey hmem) hj

end

end StatusRouter
