import StatusRouter.Proofs.Shape.Conformance
import StatusRouter.Proofs.Shape.Omission

/-!
# The document of a record

The document that publishes a record is the schema of an object, with remarks before and behind it
(`Schema.document_record`).  It defines the named parts of the record if no two of them share a name
(`Schema.defines_document`), so what the record is written as fits it (`Schema.fits_document`), and
it lists as required the fields that must be there (`Schema.mem_requiredKeys`).
-/

namespace StatusRouter

open Json (Fits Meets Rearranged)

/-- A key that stands once has its value. -/
theorem lookup_eq_some_of_mem {α : Type} {entries : List (String × α)} {key : String} {value : α}
    (hkeys : (entries.map Prod.fst).Nodup) (hmem : (key, value) ∈ entries) :
    entries.lookup key = some value := by
  induction entries with
  | nil => exact absurd hmem List.not_mem_nil
  | cons entry rest ih =>
      obtain ⟨k, v⟩ := entry
      obtain ⟨hnew, hrest⟩ := List.nodup_cons.mp hkeys
      rw [lookup_cons_ite]
      rcases List.mem_cons.mp hmem with heq | hlater
      · obtain ⟨rfl, rfl⟩ := Prod.mk.inj heq
        rw [if_pos rfl]
      · have hkey : key ∈ rest.map Prod.fst := List.mem_map_of_mem hlater
        have hne : key ≠ k := fun heq => hnew (heq ▸ hkey)
        rw [if_neg hne, ih hrest hlater]

/-- What the document of a record says before its schema. -/
def RecordInfo.remarks (info : RecordInfo) : List (String × Json) :=
  [("$schema", .string Schema.dialect), ("title", .string info.name)] ++
    if info.doc.isEmpty then [] else [("description", .string info.doc)]

/-- The named parts of the fields of a record. -/
def Fields.namedParts (fields : Fields) : List (String × Schema) :=
  Schema.namedPartsAll fields.properties

/-- The schemas of the named parts, as the document of a record defines them. -/
def Fields.definitions (fields : Fields) : List (String × Json) :=
  if (KeyMap.ofList fields.namedParts).isEmpty then []
  else [("definitions",
    .object ((KeyMap.ofList fields.namedParts).entries.map fun part => (part.1, part.2.toJson)))]

namespace Schema

variable {info : RecordInfo} {fields : Fields}

/-- The document of a record is the schema of an object, with remarks before and behind it. -/
theorem document_record :
    document (.record info fields) =
      .object (info.remarks ++ objectMembers (toJsonAll fields.properties) fields.required ++
        fields.definitions) := by
  have hobject : besides (.object (objectMembers (toJsonAll fields.properties) fields.required)) =
      objectMembers (toJsonAll fields.properties) fields.required := by
    rcases Json.besides_cases (objectMembers (toJsonAll fields.properties) fields.required) with
      ⟨path, hreference, -⟩ | hbesides
    · exact absurd (congrArg List.head? hreference) (by simp [objectMembers])
    · exact hbesides
  have hremarks : [("$schema", Json.string dialect), ("title", .string info.name)] ++
      besides (describe info.doc (.object fields.properties fields.required)).toJson =
        info.remarks ++ objectMembers (toJsonAll fields.properties) fields.required := by
    rw [RecordInfo.remarks, List.append_assoc]
    unfold describe
    split
    · exact congrArg _ hobject
    · rcases Json.besides_cases (("description", .string info.doc) ::
          besides (object fields.properties fields.required).toJson) with ⟨path, h, -⟩ | hbesides
      · exact absurd (congrArg List.head? h) (by simp)
      · exact congrArg _ (hbesides.trans (congrArg (_ :: ·) hobject))
  have hparts : (object fields.properties fields.required).namedParts = fields.namedParts := rfl
  show Json.object (documentMembers info.name _) = _
  simp only [documentMembers, namedParts_describe, hparts, hremarks, Fields.definitions]
  by_cases hempty : (KeyMap.ofList fields.namedParts).isEmpty = true
  · rw [if_pos hempty, if_pos hempty, List.append_nil]
  · rw [if_neg hempty, if_neg hempty]

theorem mem_remarks {member : String × Json} (h : member ∈ info.remarks) :
    member.1 ∈ ["$schema", "title", "description"] := by
  rw [RecordInfo.remarks, List.mem_append] at h
  rcases h with h | h
  · rcases List.mem_pair.mp h with rfl | rfl <;> simp
  · split at h
    · cases h
    · simp [List.mem_singleton.mp h]

theorem mem_definitions {member : String × Json} (h : member ∈ fields.definitions) :
    member.1 ∈ ["definitions"] := by
  unfold Fields.definitions at h
  split at h
  · cases h
  · simp [List.mem_singleton.mp h]

theorem isRemark_of_mem_remarks {member : String × Json} (h : member ∈ info.remarks) :
    member.1 ∈ Json.remarks :=
  have hsubset : ["$schema", "title", "description"] ⊆ Json.remarks := by decide
  hsubset (mem_remarks h)

theorem isRemark_of_mem_definitions {member : String × Json} (h : member ∈ fields.definitions) :
    member.1 ∈ Json.remarks :=
  have hsubset : ["definitions"] ⊆ Json.remarks := by decide
  hsubset (mem_definitions h)

/-- Remarks apart, the document of a record says what the schema of an object says. -/
theorem get?_document {key : String} (hkey : key ∉ Json.remarks) :
    (document (.record info fields)).get? key =
      (objectMembers (toJsonAll fields.properties) fields.required).lookup key := by
  rw [document_record, Json.get?, Json.lookup_annotated (fun _ => isRemark_of_mem_remarks)
    (fun _ => isRemark_of_mem_definitions) hkey]

/-- The document of a record defines its named parts, if no two of them share a name. -/
theorem defines_document (hnames : (fields.namedParts.map Prod.fst).Nodup)
    (hletters : ∀ part ∈ fields.namedParts, ∀ c ∈ part.1.toList, c.isAlphanum) :
    ∀ part ∈ fields.namedParts, (document (.record info fields)).Defines part := by
  intro part hpart
  refine ⟨hletters part hpart, ?_⟩
  have hperm : (KeyMap.ofList fields.namedParts).entries.Perm fields.namedParts :=
    KeyMap.perm_foldl_insert KeyMap.empty hnames
  have hmem : part ∈ (KeyMap.ofList fields.namedParts).entries := hperm.mem_iff.mpr hpart
  have hkeys : (((KeyMap.ofList fields.namedParts).entries.map
      fun part => (part.1, part.2.toJson)).map Prod.fst).Nodup := by
    rw [List.map_map]
    exact (hperm.map Prod.fst).nodup_iff.mpr hnames
  have hnonempty : ¬(KeyMap.ofList fields.namedParts).isEmpty = true := fun hempty =>
    List.ne_nil_of_mem hmem (List.isEmpty_iff.mp hempty)
  have hdefinitions : (document (.record info fields)).get? "definitions" =
      fields.definitions.lookup "definitions" := by
    rw [document_record, Json.get?, List.lookup_append, List.lookup_append,
      Json.lookup_eq_none_of_keys (fun _ => mem_remarks) (by decide),
      Json.lookup_objectMembers (by decide), Option.none_or, Option.none_or]
  rw [Json.definition?, hdefinitions, Fields.definitions, if_neg hnonempty, List.lookup_cons_self]
  exact lookup_eq_some_of_mem hkeys
    (List.mem_map_of_mem (f := fun part : String × Schema => (part.1, part.2.toJson)) hmem)

/-! ## What fits the document -/

/-- What the value of a record is written as fits the document of the record, also when members that
may be missing are taken away. -/
theorem fits_document (hfaithful : (Shape.record info fields).isFaithful = true)
    (hnames : (fields.namedParts.map Prod.fst).Nodup)
    (hletters : ∀ part ∈ fields.namedParts, ∀ c ∈ part.1.toList, c.isAlphanum)
    {v : (Shape.record info fields).Value} {j : Json}
    (hj : Rearranged ((Shape.record info fields).encode v) j) {keys : List String}
    (hkeys : ∀ key ∈ keys, key ∉ fields.required) :
    Fits (document (.record info fields)) (document (.record info fields)) (j.without keys) := by
  have hnodup := Fields.nodup_keys_of_isFaithful hfaithful
  have hfields : fields.isFaithful = true := ((Bool.and_eq_true _ _).mp hfaithful).2
  obtain ⟨members, hmembers, -, hmem, hvalues⟩ := Rearranged.members_without hj
    (hnodup.sublist (Fields.keys_encode_sublist fields v)) keys
  have hobject : Fits (document (.record info fields))
      (.object (objectMembers (toJsonAll fields.properties) fields.required))
      (.object members) := by
    refine Json.fits_objectMembers (fun key hkey => ?_)
      fun property hproperty member hmember hkey => ?_
    · have hnot : key ∉ keys := fun h => hkeys key h hkey
      exact (hmem key).mpr ⟨fields.mem_encode_of_required v hkey, hnot⟩
    · obtain ⟨value, hvalue, hrearranged⟩ := hvalues member hmember
      exact Fields.fits_property fields hfields hnodup (defines_document hnames hletters) v
        (hkey ▸ hvalue) hrearranged hproperty
  rw [hmembers]
  rw [document_record] at hobject ⊢
  exact hobject.annotated_object (fun _ => isRemark_of_mem_remarks)
    fun _ => isRemark_of_mem_definitions

/-! ## Required fields -/

theorem lookup_required (properties : List (String × Json)) (required : List String) :
    (objectMembers properties required).lookup "required" =
      if required.isEmpty then none
      else some (Json.strings (required.mergeSort fun a b => decide (a ≤ b))) := by
  have hempty : (required.mergeSort fun a b => decide (a ≤ b)).isEmpty = required.isEmpty :=
    (List.mergeSort_perm ..).isEmpty_eq
  have hlater : (if properties.isEmpty then []
      else [("properties", Json.object properties)]).lookup "required" = none := by
    split <;> rfl
  simp only [objectMembers, hempty]
  rw [List.lookup_append, List.lookup_append, hlater, Option.or_none]
  split <;> rfl

/-- An object that fits the document of a record has the fields that must be there. -/
theorem mem_of_fits_document {root : Json} {members : List (String × Json)} {key : String}
    (h : Fits root (document (.record info fields)) (.object members))
    (hkey : key ∈ fields.required) : key ∈ members.map Prod.fst := by
  have hnonempty : ¬fields.required.isEmpty = true := fun hempty =>
    List.ne_nil_of_mem hkey (List.isEmpty_iff.mp hempty)
  have hreference : (document (.record info fields)).get? "$ref" = none :=
    (get?_document (by decide)).trans (Json.lookup_objectMembers (by decide))
  have hrequired : (document (.record info fields)).get? "required" =
      some (Json.strings (fields.required.mergeSort fun a b => decide (a ≤ b))) := by
    rw [get?_document (by decide), lookup_required, if_neg hnonempty]
  rw [document_record] at h hreference hrequired
  obtain ⟨before, after, hmembers, -⟩ := List.lookup_eq_some_iff.mp hrequired
  have hall := h.keys_of_required hreference
    (hmembers ▸ List.mem_append_right before List.mem_cons_self)
  exact hall key (List.mem_mergeSort.mpr hkey)

/-- What is written for a record does not fit its document without a field that must be there. -/
theorem not_fits_document {root : Json} {v : (Shape.record info fields).Value} {j : Json}
    (hj : Rearranged ((Shape.record info fields).encode v) j) {key : String}
    (hkey : key ∈ fields.required) :
    ¬Fits root (document (.record info fields)) (j.without [key]) := by
  obtain ⟨members, rfl, -, -⟩ := Rearranged.exists_members hj
  intro hfits
  obtain ⟨member, hmember, rfl⟩ := List.mem_map.mp (mem_of_fits_document hfits hkey)
  exact of_decide_eq_true (List.mem_filter.mp hmember).2 List.mem_cons_self

/-- The keys that a document lists as required. -/
def requiredKeys (document : Json) : List String :=
  match document.get? "required" with
  | some (.array keys) => keys.filterMap fun
    | .string key => some key
    | _ => none
  | _ => []

theorem mem_requiredKeys {key : String} :
    key ∈ requiredKeys (document (.record info fields)) ↔ key ∈ fields.required := by
  rw [requiredKeys, get?_document (by decide), lookup_required]
  by_cases hempty : fields.required.isEmpty = true
  · rw [if_pos hempty, List.isEmpty_iff.mp hempty]
  · rw [if_neg hempty]
    simp [Json.strings]

end Schema

end StatusRouter
