import StatusRouter.Shape.Decode

/-!
# Reading the members of a record

The members of an object come in any order, some fields have none, and some members are of no field.
The slots keep what was met.  So reading is followed by the keys that were met so far: if every
member reads as the value that its field has in a record, then the slots are those of the record,
filled for the keys met (`put_filled`, `foldlM_put_filled`), and the record is complete if every
other field stands for the value it has there (`complete_filled`).
-/

namespace StatusRouter

theorem FieldInfo.missing_eq_ok {α : Type} {info : FieldInfo} {initial? : Option α} {v : α}
    (hpresence : info.presence ≠ .required) (hinitial : initial? = some v) :
    info.missing initial? = .ok v := by
  subst hinitial
  obtain ⟨key, doc, presence⟩ := info
  cases presence with
  | required => exact absurd rfl hpresence
  | _ => rfl

namespace Fields

variable {form : RecordForm} {key : String} {j : Json} {met : List String}

/-- The slots after members with these keys, as a record fills them. -/
def filled : (fields : Fields) → fields.Value → List String → fields.Slots
  | .nil, _, _ => ()
  | .cons info _ rest, (v, vs), met =>
    (if info.key ∈ met then some v else none, rest.filled vs met)

/-- A member reads as the value that its field has in a record, if it has a field. -/
def Reads : (fields : Fields) → fields.Value → String → Json → Prop
  | .nil, _, _, _ => True
  | .cons info s rest, (v, vs), key, j =>
    if key = info.key then s.decode j = .ok v ∧ info.presence ≠ .lenient else rest.Reads vs key j

/-- The fields without these keys may be missing, and stand for the values of a record. -/
def Spares : (fields : Fields) → fields.Value → List String → Prop
  | .nil, _, _ => True
  | .cons info s rest, (v, vs), met =>
    (info.key ∉ met → info.presence ≠ .required ∧ s.initial? = some v) ∧ rest.Spares vs met

theorem filled_nil : (fields : Fields) → (v : fields.Value) → fields.filled v [] = fields.noSlots
  | .nil, _ => rfl
  | .cons info _ rest, (v, vs) => by
    rw [filled, noSlots, filled_nil rest vs, if_neg List.not_mem_nil]

theorem filled_append_of_notMem : (fields : Fields) → (v : fields.Value) → key ∉ fields.keys →
    fields.filled v (met ++ [key]) = fields.filled v met
  | .nil, _, _ => rfl
  | .cons info _ rest, (v, vs), hkey => by
    obtain ⟨hfirst, hrest⟩ := not_or.mp (mt List.mem_cons.mpr hkey)
    have hmem : info.key ∈ met ++ [key] ↔ info.key ∈ met := by simp [Ne.symm hfirst]
    rw [filled, filled, filled_append_of_notMem rest vs hrest]
    simp only [hmem]
    rfl

section Put

variable {info : FieldInfo} {s : Shape} {rest : Fields} {slot : Option s.Value} {slots : rest.Slots}

theorem put_cons_self (hlenient : info.presence ≠ .lenient) :
    (cons info s rest).put form (none, slots) info.key j =
      do return (some (← s.decode j), slots) :=
  (if_pos rfl).trans ((if_neg (by simp)).trans (if_neg hlenient))

theorem put_cons_of_ne (hkey : key ≠ info.key) :
    (cons info s rest).put form (slot, slots) key j =
      do return (slot, ← rest.put form slots key j) :=
  if_neg hkey

end Put

/-- A member that was not met before fills the slot of its field. -/
theorem put_filled : (fields : Fields) → fields.keys.Nodup → (v : fields.Value) →
    fields.Reads v key j → key ∉ met →
    fields.put form (fields.filled v met) key j = .ok (fields.filled v (met ++ [key]))
  | .nil, _, _, _, _ => rfl
  | .cons info s rest, hkeys, (v, vs), hreads, hmet => by
    obtain ⟨hnew, hrest⟩ := List.nodup_cons.mp hkeys
    rw [Reads] at hreads
    rw [filled, filled]
    by_cases hkey : key = info.key
    · rw [if_pos hkey] at hreads
      obtain ⟨hdecode, hlenient⟩ := hreads
      subst hkey
      have hmem : info.key ∈ met ++ [info.key] := by simp
      -- the later fields have other keys, so their slots stay
      rw [if_neg hmet, if_pos hmem, put_cons_self hlenient, hdecode,
        filled_append_of_notMem rest vs hnew]
      rfl
    · have hmem : info.key ∈ met ++ [key] ↔ info.key ∈ met := by simp [Ne.symm hkey]
      rw [if_neg hkey] at hreads
      rw [put_cons_of_ne hkey, put_filled rest hrest vs hreads hmet]
      simp only [hmem]
      rfl

theorem foldlM_put_filled {fields : Fields} (hkeys : fields.keys.Nodup) {v : fields.Value}
    {members : List (String × Json)}
    (hreads : ∀ member ∈ members, fields.Reads v member.1 member.2)
    (hnodup : (met ++ members.map Prod.fst).Nodup) :
    members.foldlM (fun slots member => fields.put form slots member.1 member.2)
        (fields.filled v met) =
      .ok (fields.filled v (met ++ members.map Prod.fst)) := by
  induction members generalizing met with
  | nil =>
      rw [List.map_nil, List.append_nil]
      rfl
  | cons member members ih =>
      obtain ⟨hread, hrest⟩ := List.forall_mem_cons.mp hreads
      have hnew : member.1 ∉ met := fun hmem =>
        (List.nodup_append.mp hnodup).2.2 member.1 hmem member.1 List.mem_cons_self rfl
      have hsplit : met ++ (member :: members).map Prod.fst =
          (met ++ [member.1]) ++ members.map Prod.fst := by simp
      rw [hsplit] at hnodup ⊢
      rw [List.foldlM_cons, put_filled fields hkeys v hread hnew]
      exact ih hrest hnodup

/-- A field that was met, or may be missing, leaves it to the later fields whether the record is
complete. -/
theorem complete_cons_filled {info : FieldInfo} {s : Shape} {rest : Fields} {v : s.Value}
    {vs : rest.Value}
    (hspare : info.key ∉ met → info.presence ≠ .required ∧ s.initial? = some v) :
    (cons info s rest).complete ((cons info s rest).filled (v, vs) met) =
      do return (v, ← rest.complete (rest.filled vs met)) := by
  rw [filled]
  by_cases hmet : info.key ∈ met
  · rw [if_pos hmet]
    rfl
  · obtain ⟨hpresence, hinitial⟩ := hspare hmet
    rw [if_neg hmet]
    show (do
      let v ← info.missing s.initial?
      return (v, ← rest.complete (rest.filled vs met))) = _
    rw [FieldInfo.missing_eq_ok hpresence hinitial]
    rfl

/-- A record is complete if the fields that were not met may be missing. -/
theorem complete_filled : (fields : Fields) → (v : fields.Value) → fields.Spares v met →
    fields.complete (fields.filled v met) = .ok v
  | .nil, _, _ => rfl
  | .cons info s rest, (v, vs), ⟨hspare, hspares⟩ => by
    rw [complete_cons_filled hspare, complete_filled rest vs hspares]
    rfl

/-- An object whose members have different keys and read as the fields of a record is read as the
record, if the fields that have no member stand for the values they have there. -/
theorem decode_object {info : RecordInfo} {fields : Fields} (hkeys : fields.keys.Nodup)
    {v : fields.Value} {members : List (String × Json)}
    (hreads : ∀ member ∈ members, fields.Reads v member.1 member.2)
    (hnodup : (members.map Prod.fst).Nodup) (hspares : fields.Spares v (members.map Prod.fst)) :
    (Shape.record info fields).decode (.object members) = .ok v := by
  have hslots : members.foldlM
      (fun slots (member : String × Json) => fields.put info.form slots member.1 member.2)
      (fields.filled v []) = .ok (fields.filled v ([] ++ members.map Prod.fst)) :=
    foldlM_put_filled hkeys hreads hnodup
  rw [filled_nil, List.nil_append] at hslots
  show (members.foldlM _ fields.noSlots >>= fields.complete) = _
  rw [hslots]
  exact complete_filled fields v hspares

end Fields

end StatusRouter
