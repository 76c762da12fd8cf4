import StatusRouter.KeyMap
import StatusRouter.Shape.Encode

/-!
# Schemas

The schema of a shape tells other programs which JSON values fit it.  A `Schema` is written in two
dialects.  As a document it refers to the schemas of named parts, which stand among its
definitions, and says by an added type that null is allowed.  Inside a resource definition, where
references are not allowed, every part stands in its place and null is allowed by a mark.
-/

namespace StatusRouter

/-- Which JSON values fit. -/
inductive Schema where
  | any
  /-- A value of a type, which may have a format that is a remark only. -/
  | scalar (type : String) (format : Option String)
  /-- One of a set of texts. -/
  | oneOf (names : List String)
  | array (items : Schema)
  /-- An object with values of one schema under any keys. -/
  | map (values : Schema)
  | object (properties : List (String × Schema)) (required : List String)
  /-- A part that has a name of its own. -/
  | named (name : String) (schema : Schema)
  /-- Null, or a value that fits. -/
  | nullable (schema : Schema)
  /-- A value that fits, with a remark on what it means. -/
  | described (text : String) (schema : Schema)
  /-- A value that fits, with a remark on what a missing one stands for. -/
  | withDefault (value : Json) (schema : Schema)

namespace Schema

/-- The schema with a remark, unless the remark is empty. -/
def describe (text : String) (schema : Schema) : Schema :=
  if text.isEmpty then schema else .described text schema

end Schema

/-! ## The schema of a shape -/

/-- The remark on what a missing field stands for. -/
def Shape.remarkDefault (s : Shape) (presence : Presence) (schema : Schema) : Schema :=
  match presence, s.initial? with
  | .defaulted, some v => .withDefault (s.encode v) schema
  | _, _ => schema

mutual

/-- The schema of the values that are written in a shape. -/
def Shape.schema : Shape → Schema
  | .string => .scalar "string" none
  | .boolean => .scalar "boolean" none
  | .time => .scalar "string" (some "date-time")
  | .wholeTime => .scalar "string" (some "date-time")
  | .any => .any
  | .integer w => .scalar "integer" (some w.format)
  | .choice c => .named c.name (.describe c.doc (.oneOf c.variants))
  | .list s => .array s.schema
  | .map s => .map s.schema
  | .optional s => .nullable s.schema
  | .record info fields =>
    .named info.name (.describe info.doc (.object fields.properties fields.required))

/-- The schemas of the fields of a record. -/
def Fields.properties : Fields → List (String × Schema)
  | .nil => []
  | .cons info s rest =>
    (info.key, .describe info.doc (s.remarkDefault info.presence s.schema)) :: rest.properties

/-- The keys of the fields that must be there. -/
def Fields.required : Fields → List String
  | .nil => []
  | .cons info _ rest =>
    if info.presence = .required then info.key :: rest.required else rest.required

end

namespace Schema

/-! ## Writing a schema -/

/-- The place of the definition with a name. -/
def definitionPath (name : String) : String := "#/definitions/" ++ name

/-- The JSON form of a reference to a definition. -/
def referenceTo (name : String) : Json :=
  .object [("$ref", .string (definitionPath name))]

/-- The members of an object, or the value as the only one of a list of parts if it is a reference,
beside which nothing else may stand. -/
def besides (value : Json) : List (String × Json) :=
  match value with
  | .object [("$ref", path)] => [("allOf", .array [.object [("$ref", path)]])]
  | .object members => members
  | _ => []

/-- A schema that null fits too: by an added type, or by a choice if the schema gives no type. -/
def orNull (value : Json) : Json :=
  match value.get? "type" with
  | some type =>
    match value with
    | .object members =>
      .object <| members.map fun member =>
        if member.1 = "type" then ("type", .array [type, .string "null"]) else member
    | other => other
  | none => .object [("anyOf", .array [value, .object [("type", .string "null")]])]

/-- The members that say which keys an object has and must have. -/
def objectMembers (properties : List (String × Json)) (required : List String) :
    List (String × Json) :=
  let keys := required.mergeSort fun a b => decide (a ≤ b)
  [("type", .string "object")] ++
    (if keys.isEmpty then [] else [("required", Json.strings keys)]) ++
    (if properties.isEmpty then [] else [("properties", .object properties)])

/-- The members that say that a value is of a type. -/
def scalarMembers (type : String) (format : Option String) : List (String × Json) :=
  ("type", .string type) :: (format.toList.map fun f => ("format", Json.string f))

mutual

/-- The schema as it stands inside a document: named parts are referred to. -/
def toJson : Schema → Json
  | .any => .bool true
  | .scalar type format => .object (scalarMembers type format)
  | .oneOf names => .object [("type", .string "string"), ("enum", Json.strings names)]
  | .array items => .object [("type", .string "array"), ("items", items.toJson)]
  | .map values => .object [("type", .string "object"), ("additionalProperties", values.toJson)]
  | .object properties required => .object (objectMembers (toJsonAll properties) required)
  | .named name _ => referenceTo name
  | .nullable schema => orNull schema.toJson
  | .described text schema => .object (("description", .string text) :: besides schema.toJson)
  | .withDefault value schema => .object (("default", value) :: besides schema.toJson)

def toJsonAll : List (String × Schema) → List (String × Json)
  | [] => []
  | (key, schema) :: rest => (key, schema.toJson) :: toJsonAll rest

end

mutual

/-- The schema as it stands inside a resource definition: every part in its place, a remark on a
part giving way to one on its use. -/
def toStructural : Schema → List (String × Json)
  | .any => [("x-kubernetes-preserve-unknown-fields", .bool true)]
  | .scalar type format => scalarMembers type format
  | .oneOf names => [("type", .string "string"), ("enum", Json.strings names)]
  | .array items => [("type", .string "array"), ("items", .object items.toStructural)]
  | .map values =>
    [("type", .string "object"), ("additionalProperties", .object values.toStructural)]
  | .object properties required => objectMembers (toStructuralAll properties) required
  | .named _ schema => schema.toStructural
  | .nullable schema => ("nullable", .bool true) :: schema.toStructural
  | .described text schema =>
    ("description", .string text) ::
      schema.toStructural.filter fun member => member.1 ≠ "description"
  | .withDefault value schema => ("default", value) :: schema.toStructural

def toStructuralAll : List (String × Schema) → List (String × Json)
  | [] => []
  | (key, schema) :: rest => (key, .object schema.toStructural) :: toStructuralAll rest

end

mutual

/-- The named parts of a schema, each before the parts that it names itself. -/
def namedParts : Schema → List (String × Schema)
  | .any => []
  | .scalar _ _ => []
  | .oneOf _ => []
  | .array items => items.namedParts
  | .map values => values.namedParts
  | .object properties _ => namedPartsAll properties
  | .named name schema => (name, schema) :: schema.namedParts
  | .nullable schema => schema.namedParts
  | .described _ schema => schema.namedParts
  | .withDefault _ schema => schema.namedParts

def namedPartsAll : List (String × Schema) → List (String × Schema)
  | [] => []
  | (_, schema) :: rest => schema.namedParts ++ namedPartsAll rest

end

/-- The dialect that documents are written in. -/
def dialect : String := "http://json-schema.org/draft-07/schema#"

/-- The members of a document: the schema itself with a title, and the definitions of its parts. -/
def documentMembers (title : String) (schema : Schema) : List (String × Json) :=
  let parts := KeyMap.ofList schema.namedParts
  let head := [("$schema", Json.string dialect), ("title", .string title)] ++ besides schema.toJson
  if parts.isEmpty then head
  else head ++ [("definitions",
    .object (parts.entries.map fun part => (part.1, part.2.toJson)))]

/-- The document that publishes the schema of a shape.  A shape with a name has that for its title,
and stands at the top of its document. -/
def document (s : Shape) : Json :=
  match s.schema with
  | .named name schema => .object (documentMembers name schema)
  | schema => .object (documentMembers "String" schema)

end Schema

end StatusRouter
