import StatusRouter.Shape.Schema

/-!
# Values that fit a schema

A document with a schema is itself a JSON value.  A value fits it if it meets every keyword of the
schema: it has the type, is one of the names, has the required members, and its parts fit the
schemas of the parts.  Some keywords are remarks only, the format of a text among them, and beside a
reference nothing else counts.  `Fits` and `Meets` state these rules for the keywords that documents
are written with; a keyword without a rule is met by nothing.

Wherever a schema is put, more remarks may be added to it (`Fits.annotated`), and null may be
allowed in one of the two ways in which documents say so (`Fits.orNull_of_type`,
`Fits.orNull_of_reference`).  An object fits the schema of a record if it has the required members
and the properties fit (`fits_objectMembers`), and only if it has the required members
(`Fits.keys_of_required`).
-/

namespace StatusRouter.Json

/-! ## The rules -/

/-- A value is of a type, as schemas name the types.  A number is an integer if it is whole, however
it is written. -/
inductive HasType : String → Json → Prop
  | null : HasType "null" .null
  | boolean (b : Bool) : HasType "boolean" (.bool b)
  | string (s : String) : HasType "string" (.string s)
  | integer (i : Int) : HasType "integer" (.int i)
  | wholeFloat {x : Binary64} (hfinite : x.isFinite)
      (hwhole : (Binary64.scale x.significand x.weight).2 ∣
        (Binary64.scale x.significand x.weight).1) : HasType "integer" (.float x)
  | numberInt (i : Int) : HasType "number" (.int i)
  | numberFloat (x : Binary64) : HasType "number" (.float x)
  | array (items : List Json) : HasType "array" (.array items)
  | object (members : List (String × Json)) : HasType "object" (.object members)

/-- The keywords that no value has to meet. -/
def remarks : List String := ["$schema", "title", "description", "default", "format", "definitions"]

/-- The definition with a name in a document. -/
def definition? (document : Json) (name : String) : Option Json :=
  (document.get? "definitions").bind (get? name)

/-- The keys for which a schema gives properties. -/
def propertyKeys (schema : List (String × Json)) : List String :=
  match schema.lookup "properties" with
  | some (.object properties) => properties.map Prod.fst
  | _ => []

mutual

/-- A value fits a schema that stands in a document. -/
inductive Fits (document : Json) : (schema value : Json) → Prop
  | any {value} : Fits document (.bool true) value
  /-- A reference gives the place of a definition; its name is made of letters and digits, so it
  stands in the place as it is. -/
  | reference {schema name target value}
      (hreference : List.lookup "$ref" schema = some (.string ("#/definitions/" ++ name)))
      (hname : ∀ c ∈ name.toList, c.isAlphanum) (htarget : document.definition? name = some target)
      (h : Fits document target value) : Fits document (.object schema) value
  | keywords {schema value} (hreference : List.lookup "$ref" schema = none)
      (h : ∀ member ∈ schema, Meets document schema member.1 member.2 value) :
      Fits document (.object schema) value

/-- A value meets a keyword of a schema. -/
inductive Meets (document : Json) :
    (schema : List (String × Json)) → (keyword : String) → (argument value : Json) → Prop
  | remark {schema keyword argument value} (h : keyword ∈ remarks) :
      Meets document schema keyword argument value
  | type {schema name value} (h : HasType name value) :
      Meets document schema "type" (.string name) value
  | types {schema name names value} (hmem : name ∈ names) (h : HasType name value) :
      Meets document schema "type" (strings names) value
  | enum {schema options value} (h : value ∈ options) :
      Meets document schema "enum" (.array options) value
  | required {schema keys value}
      (h : ∀ members, value = .object members → ∀ key ∈ keys, key ∈ members.map Prod.fst) :
      Meets document schema "required" (strings keys) value
  | properties {schema properties value}
      (h : ∀ members, value = .object members → ∀ property ∈ properties, ∀ member ∈ members,
        member.1 = property.1 → Fits document property.2 member.2) :
      Meets document schema "properties" (.object properties) value
  | additionalProperties {schema values value}
      (h : ∀ members, value = .object members → ∀ member ∈ members,
        member.1 ∉ propertyKeys schema → Fits document values member.2) :
      Meets document schema "additionalProperties" values value
  | items {schema item value}
      (h : ∀ items, value = .array items → ∀ element ∈ items, Fits document item element) :
      Meets document schema "items" item value
  | allOf {schema parts value} (h : ∀ part ∈ parts, Fits document part value) :
      Meets document schema "allOf" (.array parts) value
  | anyOf {schema parts part value} (hmem : part ∈ parts) (h : Fits document part value) :
      Meets document schema "anyOf" (.array parts) value

end

variable {document value : Json} {schema : List (String × Json)}

/-! ## Remarks -/

/-- Only the properties of a schema have a say in what its other keywords mean. -/
theorem Meets.congr {other : List (String × Json)} {keyword : String} {argument : Json}
    (hproperties : other.lookup "properties" = schema.lookup "properties")
    (h : Meets document schema keyword argument value) :
    Meets document other keyword argument value := by
  cases h with
  | remark h => exact .remark h
  | type h => exact .type h
  | types hmem h => exact .types hmem h
  | enum h => exact .enum h
  | required h => exact .required h
  | properties h => exact .properties h
  | additionalProperties h =>
      have hkeys : propertyKeys other = propertyKeys schema := by
        rw [propertyKeys, hproperties, propertyKeys]
      exact .additionalProperties fun members hvalue member hmember hkey =>
        h members hvalue member hmember (hkeys ▸ hkey)
  | items h => exact .items h
  | allOf h => exact .allOf h
  | anyOf hmem h => exact .anyOf hmem h

theorem lookup_eq_none_of_keys {members : List (String × Json)} {keys : List String} {key : String}
    (hmembers : ∀ member ∈ members, member.1 ∈ keys) (hkey : key ∉ keys) :
    members.lookup key = none := by
  rw [List.lookup_eq_none_iff]
  intro member hmem
  have hne : key ≠ member.1 := fun heq => hkey (heq ▸ hmembers member hmem)
  simpa using hne

theorem lookup_annotated {before members after : List (String × Json)} {key : String}
    (hbefore : ∀ member ∈ before, member.1 ∈ remarks)
    (hafter : ∀ member ∈ after, member.1 ∈ remarks) (hkey : key ∉ remarks) :
    (before ++ members ++ after).lookup key = members.lookup key := by
  rw [List.lookup_append, List.lookup_append, lookup_eq_none_of_keys hbefore hkey,
    lookup_eq_none_of_keys hafter hkey, Option.none_or, Option.or_none]

/-- Remarks may be put before and behind the keywords of a schema. -/
theorem Fits.annotated_object {before after : List (String × Json)}
    (hbefore : ∀ member ∈ before, member.1 ∈ remarks)
    (hafter : ∀ member ∈ after, member.1 ∈ remarks) (h : Fits document (.object schema) value) :
    Fits document (.object (before ++ schema ++ after)) value := by
  have hlookup {key : String} (hkey : key ∉ remarks) :
      (before ++ schema ++ after).lookup key = schema.lookup key :=
    lookup_annotated hbefore hafter hkey
  cases h with
  | reference hreference hname htarget h =>
      exact .reference ((hlookup (by decide)).trans hreference) hname htarget h
  | keywords hreference h =>
      refine .keywords ((hlookup (by decide)).trans hreference) fun member hmember => ?_
      rcases List.mem_append.mp hmember with hfront | hmember
      · rcases List.mem_append.mp hfront with hremark | hown
        · exact .remark (hbefore member hremark)
        · exact (h member hown).congr (hlookup (by decide))
      · exact .remark (hafter member hmember)

theorem besides_cases (schema : List (String × Json)) :
    (∃ path, schema = [("$ref", path)] ∧
      Schema.besides (.object schema) = [("allOf", .array [.object schema])]) ∨
      Schema.besides (.object schema) = schema := by
  generalize hvalue : Json.object schema = value
  unfold Schema.besides
  split
  · rename_i path
    obtain rfl := Json.object.inj hvalue
    exact .inl ⟨path, rfl, rfl⟩
  · exact .inr (Json.object.inj hvalue).symm
  · rename_i hother
    exact absurd hvalue.symm (hother schema)

/-- Remarks may be put beside a schema, also beside a reference. -/
theorem Fits.annotated {before after : List (String × Json)} {target : Json}
    (hbefore : ∀ member ∈ before, member.1 ∈ remarks)
    (hafter : ∀ member ∈ after, member.1 ∈ remarks) (h : Fits document target value) :
    Fits document (.object (before ++ Schema.besides target ++ after)) value := by
  have hobject {schema : List (String × Json)} (h : Fits document (.object schema) value) :
      Fits document (.object (before ++ Schema.besides (.object schema) ++ after)) value := by
    rcases besides_cases schema with ⟨path, -, hbesides⟩ | hbesides
    · -- a reference stands among the parts, where the remarks do not hide it
      rw [hbesides]
      refine Fits.annotated_object hbefore hafter (.keywords rfl fun member hmember => ?_)
      obtain rfl := List.mem_singleton.mp hmember
      exact .allOf fun part hpart => List.mem_singleton.mp hpart ▸ h
    · rw [hbesides]
      exact h.annotated_object hbefore hafter
  cases h with
  | any => exact Fits.annotated_object hbefore hafter (.keywords rfl fun _ => nofun)
  | reference hreference hname htarget h =>
      exact hobject (.reference hreference hname htarget h)
  | keywords hreference h => exact hobject (.keywords hreference h)

/-! ## Types -/

theorem fits_type {type : String} (h : HasType type value) :
    Fits document (.object [("type", .string type)]) value :=
  .keywords rfl (List.forall_mem_singleton.mpr (.type h))

/-- A value fits a schema of two keywords if it has the type and meets the other keyword. -/
theorem fits_type_and {type keyword : String} {argument : Json} (hkeyword : "$ref" ≠ keyword)
    (htype : HasType type value)
    (h : Meets document [("type", .string type), (keyword, argument)] keyword argument value) :
    Fits document (.object [("type", .string type), (keyword, argument)]) value := by
  refine .keywords ?_ (List.forall_mem_cons.mpr ⟨.type htype, List.forall_mem_singleton.mpr h⟩)
  rw [lookup_cons_ite, if_neg (by decide), lookup_cons_ite, if_neg hkeyword]
  rfl

/-! ## Null -/

theorem Meets.hasType {keyword name : String} {argument : Json}
    (h : Meets document schema keyword argument value) (hkeyword : keyword = "type")
    (hargument : argument = .string name) : HasType name value := by
  cases h with
  | remark h => exact absurd (hkeyword ▸ h) (by decide)
  | type h => exact Json.string.inj hargument ▸ h
  | types _ _ => cases hargument
  | _ => exact absurd hkeyword (by decide)

/-- Where null is allowed beside a type, all other values fit as before. -/
theorem Fits.orNull_of_type {type : String} {rest : List (String × Json)}
    (h : Fits document (.object (("type", .string type) :: rest)) value) :
    Fits document (.object (("type", strings [type, "null"]) :: rest)) value := by
  have hlookup {key : String} (hkey : key ≠ "type") :
      List.lookup key (("type", strings [type, "null"]) :: rest) =
        List.lookup key (("type", .string type) :: rest) := by
    rw [lookup_cons_ite, lookup_cons_ite, if_neg hkey, if_neg hkey]
  cases h with
  | reference hreference hname htarget h =>
      exact .reference ((hlookup (by decide)).trans hreference) hname htarget h
  | keywords hreference h =>
      obtain ⟨htype, hrest⟩ := List.forall_mem_cons.mp h
      refine .keywords ((hlookup (by decide)).trans hreference)
        (List.forall_mem_cons.mpr ⟨?_, fun member hmember => ?_⟩)
      · exact .types List.mem_cons_self (htype.hasType rfl rfl)
      · exact (hrest member hmember).congr (hlookup (by decide))

theorem orNull_of_type {type : String} {rest : List (String × Json)}
    (hrest : ∀ member ∈ rest, member.1 ≠ "type") :
    Schema.orNull (.object (("type", .string type) :: rest)) =
      .object (("type", strings [type, "null"]) :: rest) := by
  have hmap : rest.map (fun member => if member.1 = "type" then
      ("type", Json.array [.string type, .string "null"]) else member) = rest := by
    refine (List.map_congr_left fun member hmember => ?_).trans (List.map_id rest)
    exact if_neg (hrest member hmember)
  exact congrArg (fun rest => Json.object (("type", strings [type, "null"]) :: rest)) hmap

/-- Null, and what fits a definition, fit a choice between both. -/
theorem Fits.orNull_of_reference {name : String}
    (h : value = .null ∨ Fits document (Schema.referenceTo name) value) :
    Fits document (Schema.orNull (Schema.referenceTo name)) value := by
  have hchoice : Schema.orNull (Schema.referenceTo name) = .object [("anyOf",
      .array [Schema.referenceTo name, .object [("type", .string "null")]])] := rfl
  rw [hchoice]
  refine .keywords rfl (List.forall_mem_singleton.mpr ?_)
  rcases h with rfl | h
  · exact .anyOf (List.mem_cons_of_mem _ List.mem_cons_self) (fits_type .null)
  · exact .anyOf List.mem_cons_self h

/-! ## Objects -/

theorem mem_objectMembers {properties : List (String × Json)} {required : List String}
    {member : String × Json} (h : member ∈ Schema.objectMembers properties required) :
    member = ("type", .string "object") ∨
      member = ("required", strings (required.mergeSort fun a b => decide (a ≤ b))) ∨
        member = ("properties", .object properties) := by
  simp only [Schema.objectMembers, List.mem_append, List.mem_singleton] at h
  rcases h with (h | h) | h
  · exact .inl h
  · split at h
    · cases h
    · exact .inr (.inl (List.mem_singleton.mp h))
  · split at h
    · cases h
    · exact .inr (.inr (List.mem_singleton.mp h))

theorem lookup_objectMembers {properties : List (String × Json)} {required : List String}
    {key : String} (hkey : key ∉ ["type", "required", "properties"]) :
    (Schema.objectMembers properties required).lookup key = none := by
  refine lookup_eq_none_of_keys (fun member hmember => ?_) hkey
  rcases mem_objectMembers hmember with rfl | rfl | rfl <;> simp

/-- An object fits if no required member is missing and its members fit the properties. -/
theorem fits_objectMembers {properties members : List (String × Json)} {required : List String}
    (hrequired : ∀ key ∈ required, key ∈ members.map Prod.fst)
    (hproperties : ∀ property ∈ properties, ∀ member ∈ members, member.1 = property.1 →
      Fits document property.2 member.2) :
    Fits document (.object (Schema.objectMembers properties required)) (.object members) := by
  refine .keywords (lookup_objectMembers (by decide)) fun member hmember => ?_
  rcases mem_objectMembers hmember with rfl | rfl | rfl
  · exact .type (.object members)
  · refine .required fun others hothers key hkey => ?_
    obtain rfl := Json.object.inj hothers
    exact hrequired key (List.mem_mergeSort.mp hkey)
  · refine .properties fun others hothers property hproperty => ?_
    obtain rfl := Json.object.inj hothers
    exact hproperties property hproperty

theorem Meets.keys_of_required {keyword : String} {argument : Json} {keys : List String}
    {members : List (String × Json)} (h : Meets document schema keyword argument (.object members))
    (hkeyword : keyword = "required") (hargument : argument = strings keys) :
    ∀ key ∈ keys, key ∈ members.map Prod.fst := by
  cases h with
  | remark h => exact absurd (hkeyword ▸ h) (by decide)
  | required h =>
      obtain rfl := (List.map_inj_right fun _ _ => Json.string.inj).mp (Json.array.inj hargument)
      exact h members rfl
  | _ => exact absurd hkeyword (by decide)

/-- An object that fits has the members that a schema requires. -/
theorem Fits.keys_of_required {keys : List String} {members : List (String × Json)}
    (hreference : schema.lookup "$ref" = none) (hrequired : ("required", strings keys) ∈ schema)
    (h : Fits document (.object schema) (.object members)) :
    ∀ key ∈ keys, key ∈ members.map Prod.fst := by
  cases h with
  | reference hpath _ _ _ => cases hpath.symm.trans hreference
  | keywords _ h => exact (h _ hrequired).keys_of_required rfl rfl

end StatusRouter.Json
