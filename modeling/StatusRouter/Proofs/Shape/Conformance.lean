import StatusRouter.Proofs.Shape.Faithful
import StatusRouter.Proofs.Shape.Validity

/-!
# What is written fits the schema

The schema of a shape follows the shape, part by part, and so does what is written in the shape.
Where a part has a name, the schema refers to the definitions of its document, so the document has
to have the schemas of all named parts (`Json.Defines`).  Then every value of a faithful shape is
written as a value that fits (`Shape.fits_of_rearranged`), with the members of objects in any order.
-/

namespace StatusRouter

open Json (Fits Meets Rearranged)

/-- A document has the schema of a part among its definitions, under the name of the part. -/
structure Json.Defines (document : Json) (part : String × Schema) : Prop where
  name : ∀ c ∈ part.1.toList, c.isAlphanum
  definition : document.definition? part.1 = some part.2.toJson

/-! ## Remarks on schemas -/

namespace Schema

variable {document value : Json} {schema : Schema}

theorem fits_remark {keyword : String} {argument target : Json} (hremark : keyword ∈ Json.remarks)
    (h : Fits document target value) :
    Fits document (.object ((keyword, argument) :: besides target)) value := by
  have hbefore : ∀ member ∈ [(keyword, argument)], member.1 ∈ Json.remarks := by simpa using hremark
  have hafter : ∀ member ∈ ([] : List (String × Json)), member.1 ∈ Json.remarks := nofun
  have hfits := h.annotated hbefore hafter
  rwa [List.append_nil] at hfits

theorem fits_describe (text : String) (h : Fits document schema.toJson value) :
    Fits document (schema.describe text).toJson value := by
  unfold describe
  split
  · exact h
  · exact fits_remark (by decide) h

theorem fits_remarkDefault (s : Shape) (presence : Presence)
    (h : Fits document schema.toJson value) :
    Fits document (s.remarkDefault presence schema).toJson value := by
  unfold Shape.remarkDefault
  split
  · exact fits_remark (by decide) h
  · exact h

theorem namedParts_describe (text : String) (schema : Schema) :
    (schema.describe text).namedParts = schema.namedParts := by
  unfold describe
  split <;> rfl

theorem namedParts_remarkDefault (s : Shape) (presence : Presence) (schema : Schema) :
    (s.remarkDefault presence schema).namedParts = schema.namedParts := by
  unfold Shape.remarkDefault
  split <;> rfl

/-- A value fits a reference to a part if it fits the schema of the part. -/
theorem fits_referenceTo {name : String} (hdefines : document.Defines (name, schema))
    (h : Fits document schema.toJson value) : Fits document (referenceTo name) value :=
  .reference rfl hdefines.name hdefines.definition h

end Schema

/-! ## Null -/

section Null

variable {document value : Json} {s : Shape}

/-- The schema of a shape that is never null is a reference, or it gives a type, and null meets all
that it asks for beside the type. -/
theorem Shape.toJson_schema_of_mayBeNull (h : s.mayBeNull = false) :
    (∃ name, s.schema.toJson = Schema.referenceTo name) ∨
      ∃ type rest, s.schema.toJson = .object (("type", .string type) :: rest) ∧
        (∀ member ∈ rest, member.1 ≠ "type") ∧
        List.lookup "$ref" (("type", .string type) :: rest) = none ∧
        ∀ document schema, ∀ member ∈ rest, Meets document schema member.1 member.2 .null := by
  have hformat (format : String) : ∀ document schema,
      ∀ member ∈ [("format", Json.string format)],
        Meets document schema member.1 member.2 .null := by
    rintro document schema member hmember
    obtain rfl := List.mem_singleton.mp hmember
    exact .remark (by simp [Json.remarks])
  cases s with
  | any => cases h
  | optional s => cases h
  | choice c => exact .inl ⟨c.name, rfl⟩
  | record info fields => exact .inl ⟨info.name, rfl⟩
  | string => exact .inr ⟨"string", [], rfl, nofun, rfl, fun _ _ => nofun⟩
  | boolean => exact .inr ⟨"boolean", [], rfl, nofun, rfl, fun _ _ => nofun⟩
  | time => exact .inr ⟨"string", _, rfl, by simp, rfl, hformat "date-time"⟩
  | wholeTime => exact .inr ⟨"string", _, rfl, by simp, rfl, hformat "date-time"⟩
  | integer w => exact .inr ⟨"integer", _, rfl, by simp, rfl, hformat w.format⟩
  | list s =>
      refine .inr ⟨"array", [("items", s.schema.toJson)], rfl, by simp, rfl, ?_⟩
      intro document schema member hmember
      obtain rfl := List.mem_singleton.mp hmember
      exact .items nofun
  | map s =>
      refine .inr ⟨"object", [("additionalProperties", s.schema.toJson)], rfl, by simp, rfl, ?_⟩
      intro document schema member hmember
      obtain rfl := List.mem_singleton.mp hmember
      exact .additionalProperties nofun

/-- Where a value may be missing, null fits, and so does what fits otherwise. -/
theorem Shape.fits_optional (hs : s.mayBeNull = false)
    (h : value = .null ∨ Fits document s.schema.toJson value) :
    Fits document s.optional.schema.toJson value := by
  show Fits document (Schema.orNull s.schema.toJson) value
  rcases Shape.toJson_schema_of_mayBeNull hs with
    ⟨name, hname⟩ | ⟨type, rest, htype, hrest, hreference, hnull⟩
  · rw [hname] at h ⊢
    exact Fits.orNull_of_reference h
  · rw [htype] at h ⊢
    rw [Json.orNull_of_type hrest]
    rcases h with rfl | h
    · have hnulls : Meets document (("type", Json.strings [type, "null"]) :: rest) "type"
          (Json.strings [type, "null"]) .null :=
        .types (List.mem_cons_of_mem _ List.mem_cons_self) .null
      refine .keywords ?_ (List.forall_mem_cons.mpr ⟨hnulls, hnull document _⟩)
      rw [lookup_cons_ite, if_neg (by decide)] at hreference ⊢
      exact hreference
    · exact h.orNull_of_type

end Null

/-! ## Values of a shape -/

/-- The fields that must be there are always written. -/
theorem Fields.mem_encode_of_required : (fields : Fields) → (v : fields.Value) → {key : String} →
    key ∈ fields.required → key ∈ (fields.encode v).map Prod.fst
  | .nil, _, _, hkey => absurd hkey List.not_mem_nil
  | .cons info s rest, (v, vs), key, hkey => by
    rw [Fields.required] at hkey
    rw [encode_cons]
    by_cases hpresence : info.presence = .required
    · have hleft : info.leavesOut (s.isInitial v) = false := by
        rw [FieldInfo.leavesOut, hpresence]
        rfl
      rw [if_pos hpresence] at hkey
      rw [if_neg (Bool.eq_false_iff.mp hleft)]
      exact (List.mem_cons.mp hkey).elim (· ▸ List.mem_cons_self)
        fun hlater => List.mem_cons_of_mem _ (mem_encode_of_required rest vs hlater)
    · rw [if_neg hpresence] at hkey
      have hlater := mem_encode_of_required rest vs hkey
      split
      · exact hlater
      · exact List.mem_cons_of_mem _ hlater

theorem Schema.toJsonAll_keys : (properties : List (String × Schema)) →
    (Schema.toJsonAll properties).map Prod.fst = properties.map Prod.fst
  | [] => rfl
  | (key, _) :: rest => congrArg (key :: ·) (toJsonAll_keys rest)

theorem Fields.properties_keys : (fields : Fields) → fields.properties.map Prod.fst = fields.keys
  | .nil => rfl
  | .cons info _ rest => congrArg (info.key :: ·) rest.properties_keys

section Values

variable {document : Json}

mutual

/-- What a value is written as fits the schema of its shape. -/
theorem Shape.fits_of_rearranged : (s : Shape) → s.isFaithful = true →
    (∀ part ∈ s.schema.namedParts, document.Defines part) → (v : s.Value) → {j : Json} →
    Rearranged (s.encode v) j → Fits document s.schema.toJson j
  | .string, _, _, v, j, hj => by
    cases hj
    exact Json.fits_type (.string v)
  | .boolean, _, _, v, j, hj => by
    cases hj
    exact Json.fits_type (.boolean v)
  | .time, _, _, t, j, hj => by
    cases hj
    exact Json.fits_type_and (by decide) (.string _) (.remark (by decide))
  | .integer w, _, _, i, j, hj => by
    cases hj
    exact Json.fits_type_and (by decide) (.integer _) (.remark (by decide))
  | .choice c, _, hparts, i, j, hj => by
    cases hj
    have hname : Json.string c.variants[i.val] ∈ c.variants.map Json.string :=
      List.mem_map_of_mem (List.getElem_mem i.isLt)
    have honeOf : Fits document (Schema.oneOf c.variants).toJson (.string c.variants[i.val]) :=
      Json.fits_type_and (by decide) (.string _) (.enum hname)
    exact Schema.fits_referenceTo (hparts _ List.mem_cons_self)
      (Schema.fits_describe c.doc honeOf)
  | .list s, h, hparts, items, j, hj => by
    obtain ⟨others, rfl, hitems⟩ := Rearranged.exists_of_array hj
    have hpaired : List.Forall₂
        (fun form v => Fits document s.schema.toJson form ∧ Rearranged (s.encode v) form)
        others items :=
      ((List.forall₂_map_left_iff.mp hitems).imp fun v form hform =>
        ⟨Shape.fits_of_rearranged s h hparts v hform, hform⟩).flip
    refine Json.fits_type_and (by decide) (.array others) (.items fun forms hforms => ?_)
    obtain rfl := Json.array.inj hforms
    exact ((List.forall₂_and_left others items).mp hpaired).1
  | .map s, h, hparts, m, j, hj => by
    obtain ⟨members, rfl, -, hmembers⟩ := hj.exists_members
    refine Json.fits_type_and (by decide) (.object members)
      (.additionalProperties fun forms hforms form hform _ => ?_)
    obtain rfl := Json.object.inj hforms
    obtain ⟨value, hvalue, hrearranged⟩ := hmembers form hform
    obtain ⟨entry, -, hentry⟩ := List.mem_map.mp hvalue
    obtain ⟨-, rfl⟩ := Prod.mk.inj hentry
    exact Shape.fits_of_rearranged s h hparts entry.2 hrearranged
  | .optional s, h, hparts, v, j, hj => by
    obtain ⟨hs, hnull⟩ := (Bool.and_eq_true _ _).mp h
    refine Shape.fits_optional (Bool.not_eq_true' _ ▸ hnull) ?_
    cases v with
    | none =>
        cases hj
        exact .inl rfl
    | some v => exact .inr (Shape.fits_of_rearranged s hs hparts v hj)
  | .record info fields, h, hparts, v, j, hj => by
    obtain ⟨hkeys, hfields⟩ := (Bool.and_eq_true _ _).mp h
    obtain ⟨hdefines, hothers⟩ := List.forall_mem_cons.mp hparts
    rw [Schema.namedParts_describe] at hothers
    obtain ⟨members, rfl, horder, hmembers⟩ := Rearranged.exists_members hj
    refine Schema.fits_referenceTo hdefines (Schema.fits_describe info.doc ?_)
    refine Json.fits_objectMembers (fun key hkey => ?_)
      fun property hproperty member hmember hkey => ?_
    · exact horder.mem_iff.mpr (fields.mem_encode_of_required v hkey)
    · obtain ⟨value, hvalue, hrearranged⟩ := hmembers member hmember
      exact Fields.fits_property fields hfields (of_decide_eq_true hkeys) hothers v (hkey ▸ hvalue)
        hrearranged hproperty

/-- Each member of a record fits the schema of its field. -/
theorem Fields.fits_property : (fields : Fields) → fields.isFaithful = true → fields.keys.Nodup →
    (∀ part ∈ Schema.namedPartsAll fields.properties, document.Defines part) →
    (v : fields.Value) → {key : String} → {value j schema : Json} →
    (key, value) ∈ fields.encode v → Rearranged value j →
    (key, schema) ∈ Schema.toJsonAll fields.properties → Fits document schema j
  | .nil, _, _, _, _, _, _, _, _, hmem, _, _ => absurd hmem List.not_mem_nil
  | .cons info s rest, h, hkeys, hparts, (v, vs), key, value, j, schema, hmem, hj, hproperty => by
    obtain ⟨hnew, hrest⟩ := List.nodup_cons.mp hkeys
    obtain ⟨hfirst, hfaithful⟩ := (Bool.and_eq_true _ _).mp h
    obtain ⟨-, hs⟩ := (Bool.and_eq_true _ _).mp hfirst
    obtain ⟨hown, hothers⟩ := List.forall_mem_append.mp hparts
    rw [Schema.namedParts_describe, Schema.namedParts_remarkDefault] at hown
    rcases List.mem_cons.mp hproperty with hfield | hlater
    · obtain ⟨rfl, rfl⟩ := Prod.mk.inj hfield
      obtain rfl := Fields.eq_encode_of_mem_encode_cons hnew hmem
      exact Schema.fits_describe info.doc
        (Schema.fits_remarkDefault s info.presence (Shape.fits_of_rearranged s hs hown v hj))
    · have hkey : key ∈ rest.keys := by
        rw [← rest.properties_keys, ← Schema.toJsonAll_keys]
        exact List.mem_map_of_mem hlater
      have hne : key ≠ info.key := fun heq => hnew (heq ▸ hkey)
      exact Fields.fits_property rest hfaithful hrest hothers vs
        (Fields.mem_encode_cons_of_ne hne hmem) hj hlater

end

end Values

end StatusRouter
