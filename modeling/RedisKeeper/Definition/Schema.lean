import RedisKeeper.Json.Decode

/-
Schemas: which JSON values a field of a resource may have.
-/
namespace RedisKeeper
namespace Definition

open Json

inductive Schema where
  | text
  | int32
  | int64
  | choice (names : List String)
  | list (item : Schema)
  | map (value : Schema)
  /-- An object with known fields, in order of their names. -/
  | record (fields : List (String × Schema))
  /-- A text that explains what the value is for. -/
  | described (explanation : String) (schema : Schema)
  /-- The value may be null or missing. -/
  | nullable (schema : Schema)
  /-- The value may be missing, and is then this one. -/
  | defaulted (value : Json) (schema : Schema)

namespace Schema

/-- Whether a field has to be given. -/
def isRequired : Schema → Bool
  | nullable _ | defaulted _ _ => false
  | described _ schema => schema.isRequired
  | _ => true

mutual

def toJson : Schema → Json
  | text => object [("type", some (.str "string"))]
  | int32 => object [("format", some (.str "int32")), ("type", some (.str "integer"))]
  | int64 => object [("format", some (.str "int64")), ("type", some (.str "integer"))]
  | choice names => object [("enum", some (strings names)), ("type", some (.str "string"))]
  | list item => object [("items", some item.toJson), ("type", some (.str "array"))]
  | map value =>
    object [("additionalProperties", some value.toJson), ("type", some (.str "object"))]
  | record fields =>
    let required := requiredNames fields
    object [
      ("properties", some (.obj (fieldsJson fields))),
      ("required", if required.isEmpty then none else some (strings required)),
      ("type", some (.str "object"))]
  | described explanation schema => schema.toJson.set "description" (.str explanation)
  | nullable schema => schema.toJson.set "nullable" (.bool true)
  | defaulted value schema => schema.toJson.set "default" value

def fieldsJson : List (String × Schema) → List (String × Json)
  | [] => []
  | (name, schema) :: fields => (name, schema.toJson) :: fieldsJson fields

def requiredNames : List (String × Schema) → List String
  | [] => []
  | (name, schema) :: fields =>
    if schema.isRequired then name :: requiredNames fields else requiredNames fields

end

end Schema
end Definition
end RedisKeeper
