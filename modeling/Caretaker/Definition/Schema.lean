import Caretaker.Json.Field
import Caretaker.Shape

/-!
# Schemas of fields

A schema tells an API server what a field may hold: its type, what stands in for it when it is
absent, and what it is for.  A description or a default from further outside replaces one from
further inside, so a field may describe a value better than the type of the value does.
-/

namespace Caretaker

/-- The schema of a field. -/
inductive Schema where
  | any
  | text
  /-- One of several texts. -/
  | choice (names : List String)
  /-- A text that stands for a moment. -/
  | time
  | flag
  | int32
  | int64
  | textOrInt32
  | list (item : Schema)
  | map (value : Schema)
  /-- An object with known fields, some of which must be given. -/
  | record (required : List String) (fields : List (String × Schema))
  /-- A field that may be null. -/
  | nullable (schema : Schema)
  /-- A field that stands for a value when it is absent. -/
  | defaulted (value : Json) (schema : Schema)
  /-- A field that says what it is for. -/
  | described (purpose : String) (schema : Schema)

namespace Schema

/-- The schema of a type with the given name and format. -/
def ofType (name : String) (format : Option String) : Json :=
  .record [("format", format.map .text), ("type", some (.text name))]

mutual

/-- The document of a schema. -/
def encode : Schema → Json
  | any => .object []
  | text => ofType "string" none
  | choice names => .ofMembers [("enum", .ofTexts names), ("type", .text "string")]
  | time => ofType "string" (some "date-time")
  | flag => ofType "boolean" none
  | int32 => ofType "integer" (some "int32")
  | int64 => ofType "integer" (some "int64")
  | textOrInt32 => .object [("x-kubernetes-int-or-string", .bool true)]
  | list item => .ofMembers [("items", item.encode), ("type", .text "array")]
  | map value => .ofMembers [("additionalProperties", value.encode), ("type", .text "object")]
  | record required fields => .record [
      ("properties", some (.ofMembers (encodeFields fields))),
      ("required", Json.textsUnlessEmpty required),
      ("type", some (.text "object"))]
  | nullable schema => schema.encode.set "nullable" (.bool true)
  | defaulted value schema => schema.encode.set "default" value
  | described purpose schema => schema.encode.set "description" (.text purpose)

/-- The documents of the fields of an object. -/
def encodeFields : List (String × Schema) → Json.Members
  | [] => []
  | (name, schema) :: rest => (name, schema.encode) :: encodeFields rest

end

mutual

/-- The schema of the documents of a shape. -/
def ofShape : Shape → Schema
  | .any => any
  | .text | .constant _ | .base64 => text
  | .time => time
  | .flag => flag
  | .int32 => int32
  | .int64 => int64
  | .textOrInt32 => textOrInt32
  | .list item => list (ofShape item)
  | .map value => map (ofShape value)
  | .record fields => record (requiredNames fields) (ofFields fields)

/-- The schemas of the members of a shape. -/
def ofFields : List (String × Presence × Shape) → List (String × Schema)
  | [] => []
  | (name, _, shape) :: rest => (name, ofShape shape) :: ofFields rest

/-- The members of a shape that must be given. -/
def requiredNames : List (String × Presence × Shape) → List String
  | [] => []
  | (name, .required, _) :: rest => name :: requiredNames rest
  | (_, .optional, _) :: rest => requiredNames rest

end

end Schema

end Caretaker
