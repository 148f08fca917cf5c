import Caretaker.Shape
import Caretaker.Text.Digit

/-!
# YAML documents

A document is a tree of mappings, sequences and scalars.  What a scalar stands for depends on where
it stands: a member that is a text takes the text of any scalar, while truth values and numbers must
be plain.  `Yaml.resolve?` reads a document under a shape; a plain scalar that spells null stands
for an absent member.
-/

namespace Caretaker

/-- A YAML document. -/
inductive Yaml where
  /-- A scalar without quotes. -/
  | plain (text : String)
  /-- A scalar in quotes or in a block of its own. -/
  | quoted (text : String)
  | sequence (items : List Yaml)
  | mapping (entries : List (String × Yaml))
  deriving Inhabited, Repr

namespace Yaml

/-- The scalar that stands where nothing is written. -/
def absent : Yaml := plain ""

/-- The text of a scalar. -/
def text? : Yaml → Option String
  | plain text | quoted text => some text
  | _ => none

/-- Whether a document spells null. -/
def isNull : Yaml → Bool
  | plain text => text ∈ ["", "~", "null", "Null", "NULL"]
  | _ => false

/-- The truth value that a plain scalar spells. -/
def flag? : Yaml → Option Bool
  | plain text =>
    if text ∈ ["true", "True", "TRUE"] then some true
    else if text ∈ ["false", "False", "FALSE"] then some false
    else none
  | _ => none

/-- The amount that digits stand for: to the base that they begin with, else decimal ones without a
leading zero. -/
def amount? : List Char → Option Nat
  | '0' :: 'x' :: rest => Digit.number? 16 rest
  | '0' :: 'o' :: rest => Digit.number? 8 rest
  | '0' :: 'b' :: rest => Digit.number? 2 rest
  | '0' :: _ :: _ => none
  | chars => Digit.number? 10 chars

/-- The integer that a plain scalar spells. -/
def int? : Yaml → Option Int
  | plain text =>
    match text.toList with
    | '-' :: rest => (amount? rest).map fun amount => -(amount : Int)
    | '+' :: rest => (amount? rest).map fun amount => (amount : Int)
    | chars => (amount? chars).map fun amount => (amount : Int)
  | _ => none

mutual

/-- The document that a YAML document spells where any is allowed. -/
def toJson : Yaml → Json
  | plain text =>
    if (plain text).isNull then .null
    else
      match (plain text).flag?, (plain text).int? with
      | some flag, _ => .bool flag
      | none, some value => .int value
      | none, none => .text text
  | quoted text => .text text
  | sequence items => .array (itemsToJson items)
  | mapping entries => .ofMembers (entriesToJson entries)

/-- The documents that the items of a sequence spell. -/
def itemsToJson : List Yaml → List Json
  | [] => []
  | item :: rest => item.toJson :: itemsToJson rest

/-- The members that the entries of a mapping spell. -/
def entriesToJson : List (String × Yaml) → Json.Members
  | [] => []
  | (name, value) :: rest => (name, value.toJson) :: entriesToJson rest

end

mutual

/-- Read a document under a shape. -/
def resolve? : Shape → Yaml → Option Json
  | .any, document => some document.toJson
  | .text, document | .constant _, document | .base64, document | .time, document =>
    document.text?.map .text
  | .flag, document => document.flag?.map .bool
  | .int32, document | .int64, document => document.int?.map .int
  | .textOrInt32, document =>
    match document.int? with
    | some value => some (.int value)
    | none => document.text?.map .text
  | .list item, .sequence items => (items.mapM fun each => resolve? item each).map .array
  | .map value, .mapping entries =>
    (entries.mapM fun entry => (resolve? value entry.2).map fun read => (entry.1, read)).map
      .ofMembers
  | .record fields, .mapping entries => (resolveMembers? fields entries).map .object
  | _, _ => none

/-- Read the members of a record; of two entries for one member the last counts. -/
def resolveMembers? : List (String × Presence × Shape) → List (String × Yaml) →
    Option Json.Members
  | [], _ => some []
  | (name, _, shape) :: fields, entries => do
    let given := entries.filter fun entry => entry.1 = name
    let values ← given.mapM fun entry =>
      if entry.2.isNull then some .null else resolve? shape entry.2
    let rest ← resolveMembers? fields entries
    match values.getLast? with
    | none => return rest
    | some value => return (name, value) :: rest

end

end Yaml

end Caretaker
