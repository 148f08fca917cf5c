import Caretaker.Instant
import Caretaker.Json.Basic
import Caretaker.Word

/-!
# Fields of records

How a field of a record is read and when it is written.  An optional field may be absent or null; a
field with a default may be absent but not null.  A record may also be written as the array of its
values in the order of its fields.
-/

namespace Caretaker

namespace Json

variable {α : Type}

/-- Read every item of an array. -/
def listOf (read : Json → Option α) (document : Json) : Option (List α) := do
  (← document.items?).mapM read

/-- Read a text. -/
def texts? (document : Json) : Option (List String) := document.listOf text?

/-- Read an object whose members are texts. -/
def labels? (document : Json) : Option LabelMap := do
  let members ← document.members?
  let entries ← members.mapM fun member => member.2.text?.map fun value => (member.1, value)
  return KeyMap.ofList entries

/-- Read an integer of 64 bits. -/
def int64? (document : Json) : Option Int64 := do
  let value ← document.int?
  if isInt64 value then some (Int64.ofInt value) else none

/-- Read an integer of 32 bits. -/
def int32? (document : Json) : Option Int32 := do
  let value ← document.int?
  if isInt32 value then some (Int32.ofInt value) else none

/-- The text that an instant is written as. -/
def ofInstant (instant : Instant) : Json := .text instant.text

/-- Read an instant. -/
def instant? (document : Json) : Option Instant := document.text?.bind Instant.parse?

/-- A field that may be absent or null. -/
def optionalField (members : Members) (name : String) (read : Json → Option α) :
    Option (Option α) :=
  match given? members name with
  | none => some none
  | some value => (read value).map some

/-- A field that stands for `default` when it is absent. -/
def defaultField (members : Members) (name : String) (default : α) (read : Json → Option α) :
    Option α :=
  match Assoc.get? members name with
  | none => some default
  | some value => read value

/-- A field that stands for `default` when it is absent or null. -/
def requiredField (members : Members) (name : String) (default : α) (read : Json → Option α) :
    Option α :=
  match given? members name with
  | none => some default
  | some value => read value

/-- The members of a record: those of an object, or the items of an array that gives the values of
the fields in order and may end early. -/
def recordMembers? (fields : List String) (document : Json) : Option Members :=
  match document with
  | .object members => some members
  | .array items => if items.length ≤ fields.length then some (fields.zip items) else none
  | _ => none

/-- A text that is written only if it is not empty. -/
def textUnlessEmpty (value : String) : Option Json :=
  if value = "" then none else some (.text value)

/-- A list of texts that is written only if it is not empty. -/
def textsUnlessEmpty (values : List String) : Option Json :=
  if values.isEmpty then none else some (.ofTexts values)

end Json

end Caretaker
