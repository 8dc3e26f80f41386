import VolumeDrain.Json.Codec

/-!
# Schemas

What the documents of a place look like: a tree of types with a note on which properties may be
absent. `Schema.document` writes a schema in the form in which a cluster is told of it.
-/
namespace VolumeDrain

/-- What the absence of a property means. -/
inductive Absence where
  /-- The property has to be there. -/
  | refused
  /-- The property may be absent, and nothing takes its place. -/
  | allowed
  /-- An absent property has this value. -/
  | default (value : Json)

/-- The documents allowed at a place. -/
inductive Schema where
  /-- Any document. -/
  | any
  | text
  | boolean
  | int32
  | int64
  /-- A list of documents of one schema. -/
  | list (items : Schema)
  /-- An object of any member names and of values of one schema. -/
  | map (values : Schema)
  /-- An object of named properties. -/
  | object (properties : List (String × Absence × Schema))
  /-- Documents of a schema, or `null`. -/
  | nullable (inner : Schema)
  /-- Documents of a schema that is described in words. -/
  | described (words : String) (inner : Schema)

namespace Schema

/-- A property that has to be there. -/
def required (name : String) (schema : Schema) : String × Absence × Schema :=
  (name, .refused, schema)

/-- A property that may be absent. -/
def optional (name : String) (schema : Schema) : String × Absence × Schema :=
  (name, .allowed, schema)

/-- A property that may be absent or `null`. -/
def nullOr (name : String) (schema : Schema) : String × Absence × Schema :=
  (name, .allowed, .nullable schema)

/-- A property with a default value. -/
def withDefault {α : Type} [Encode α] (name : String) (value : α) (schema : Schema) :
    String × Absence × Schema :=
  (name, .default (encode value), schema)

/-- The names of the properties that have to be there, sorted. -/
def requiredNames (properties : List (String × Absence × Schema)) : List String :=
  (properties.filterMap fun p =>
    match p.2.1 with
    | .refused => some p.1
    | _ => none).mergeSort

mutual

/-- The document of a schema. The outermost description is the one that counts. -/
def document : Schema → Json
  | any => .obj []
  | text => .obj [("type", .str "string")]
  | boolean => .obj [("type", .str "boolean")]
  | int32 => .obj [("type", .str "integer"), ("format", .str "int32")]
  | int64 => .obj [("type", .str "integer"), ("format", .str "int64")]
  | list items => .obj [("type", .str "array"), ("items", document items)]
  | map values => .obj [("type", .str "object"), ("additionalProperties", document values)]
  | object properties => .record
    [field "type" "object",
     ("properties", some (.obj (propertyDocuments properties))),
     fieldUnlessEmpty "required" (requiredNames properties)]
  | nullable inner => (document inner).put "nullable" (.bool true)
  | described words inner => (document inner).put "description" (.str words)

/-- The documents of properties, each with its default value. -/
def propertyDocuments : List (String × Absence × Schema) → Json.Members
  | [] => []
  | (name, absence, schema) :: rest =>
    let own :=
      match absence with
      | .default value => (document schema).put "default" value
      | _ => document schema
    (name, own) :: propertyDocuments rest

end

end Schema

end VolumeDrain
