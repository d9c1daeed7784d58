import RedisKeeper.Definition.Resource
import RedisKeeper.Json.Writer

/-
JSON values as YAML documents, with one line for each key and element.

Text stands for itself where it can be taken for nothing else, and is quoted as
in JSON otherwise.
-/
namespace RedisKeeper
namespace Definition

/-- Whether a text can stand without quotes: letters, digits, hyphens, dots and
slashes, with a letter in front, and none of the words that mean something
else. -/
def isPlain (s : String) : Bool :=
  (match s.toList with
    | [] => false
    | c :: rest => c.isAlpha && rest.all fun c => c.isAlphanum || c ∈ ['-', '.', '/']) &&
  s.toLower ∉ ["null", "true", "false", "yes", "no", "on", "off", "y", "n"]

def textScalar (s : String) : String :=
  if isPlain s then s else String.ofList (Json.stringText s)

def indent (depth : Nat) (line : String) : String :=
  String.ofList (List.replicate (2 * depth) ' ') ++ line

/-- The text of a value that fits on one line. -/
def scalar? : Json → Option String
  | .arr [] => some "[]"
  | .obj [] => some "\x7b\x7d"
  | .arr _ | .obj _ => none
  | .str s => some (textScalar s)
  | json => some json.write

mutual

/-- The lines of a value at a depth. -/
def yamlLines (depth : Nat) (json : Json) : List String :=
  match json with
  | .arr (item :: items) => itemLines depth (item :: items)
  | .obj (member :: members) => memberLines depth (member :: members)
  | json => [indent depth ((scalar? json).getD "")]

def itemLines (depth : Nat) : List Json → List String
  | [] => []
  | item :: items =>
    -- The dash takes the place of the first line's indentation.
    (match yamlLines (depth + 1) item with
      | [] => []
      | first :: rest => indent depth ("- " ++ first.trimAsciiStart.toString) :: rest) ++
    itemLines depth items

def memberLines (depth : Nat) : List (String × Json) → List String
  | [] => []
  | (key, value) :: members =>
    (match scalar? value with
      | some text => [indent depth (textScalar key ++ ": " ++ text)]
      | none => indent depth (textScalar key ++ ":") :: yamlLines (depth + 1) value) ++
    memberLines depth members

end

def document (json : Json) : String := String.join ((yamlLines 0 json).map (· ++ "\n"))

/-- All definitions as one stream of documents. -/
def stream : String := "---\n".intercalate (all.map fun r => document r.toJson)

end Definition
end RedisKeeper
