import Assay.Json.Basic

/-!
# Schemas of JSON values

A schema says which JSON values are of a kind: by their type, by listing them, by the members of
objects and the items of arrays, by combining other schemas, and by naming one of the definitions
that go with it. An empty schema allows everything.
-/

namespace Assay

/-- The types of JSON values that schemas speak of. -/
inductive JsonType where
  | null | boolean | integer | string | array | object
deriving DecidableEq

/-- The name of a type. -/
def JsonType.name : JsonType → String
  | .null => "null"
  | .boolean => "boolean"
  | .integer => "integer"
  | .string => "string"
  | .array => "array"
  | .object => "object"

/-- A schema. -/
structure Schema where
  description : Option String := none
  default : Option Json := none
  /-- The types that are allowed; all if there are none. -/
  types : List JsonType := []
  format : Option String := none
  /-- The strings that are allowed, if only some are. -/
  only : Option (List String) := none
  allOf : List Schema := []
  anyOf : List Schema := []
  oneOf : List Schema := []
  /-- Whether a number must not be negative. -/
  natural : Bool := false
  items : List Schema := []
  required : List String := []
  properties : List (String × Schema) := []
  /-- Whether members other than the properties are forbidden. -/
  closed : Bool := false
  /-- The definition that holds instead. -/
  ref : Option String := none

namespace Schema

/-- The types as JSON: one by its name, several as an array. -/
def typesJson : List JsonType → Json
  | [t] => .str t.name
  | ts => .arr (ts.map fun t => .str t.name)

/-- A member that is left out where it has no value. -/
def member (key : String) (there : Bool) (v : Json) : List (String × Json) :=
  if there then [(key, v)] else []

mutual

/-- The members of a schema as JSON, in the order in which schemas are written. -/
def members : Schema → List (String × Json)
  | ⟨description, default, types, format, only, allOf, anyOf, oneOf, natural, items, required,
      properties, closed, ref⟩ =>
    member "description" description.isSome (.ofOption .str description) ++
    member "default" default.isSome (.ofOption id default) ++
    member "type" (!types.isEmpty) (typesJson types) ++
    member "format" format.isSome (.ofOption .str format) ++
    member "enum" only.isSome (.ofOption (fun names => .arr (names.map .str)) only) ++
    member "allOf" (!allOf.isEmpty) (.arr (listJson allOf)) ++
    member "anyOf" (!anyOf.isEmpty) (.arr (listJson anyOf)) ++
    member "oneOf" (!oneOf.isEmpty) (.arr (listJson oneOf)) ++
    member "minimum" natural (.float ⟨0⟩) ++
    (match items with
      | [s] => [("items", .obj (members s))]
      | _ => []) ++
    member "required" (!required.isEmpty) (.arr (required.map .str)) ++
    member "properties" (!properties.isEmpty) (.obj (propertiesJson properties)) ++
    member "additionalProperties" closed (.bool false) ++
    member "$ref" ref.isSome
      (.ofOption (fun name => .str ("#/definitions/" ++ name)) ref)

/-- Schemas as JSON. -/
def listJson : List Schema → List Json
  | [] => []
  | s :: rest => .obj (members s) :: listJson rest

/-- Named schemas as JSON. -/
def propertiesJson : List (String × Schema) → List (String × Json)
  | [] => []
  | (name, s) :: rest => (name, .obj (members s)) :: propertiesJson rest

end

/-- A schema as JSON. -/
def toJson (s : Schema) : Json :=
  .obj s.members

end Schema

/-- A schema with a title and the definitions that it names. -/
structure RootSchema where
  title : String
  schema : Schema
  definitions : List (String × Schema)

namespace RootSchema

/-- The members of a root schema in front of its definitions. -/
def headMembers (r : RootSchema) : List (String × Json) :=
  ("$schema", .str "http://json-schema.org/draft-07/schema#") :: ("title", .str r.title) ::
    r.schema.members

/-- A root schema as JSON. -/
def toJson (r : RootSchema) : Json :=
  .obj (r.headMembers ++ [("definitions", .obj (Schema.propertiesJson r.definitions))])

end RootSchema

end Assay
