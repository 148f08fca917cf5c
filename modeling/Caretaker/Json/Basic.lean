import Caretaker.KeyMap

/-!
# JSON documents

A document is a tree of objects, arrays and scalars.  The members of an object are a list of
entries; documents that come from text or from `Json.ofMembers` keep it in ascending order of the
names, so that two of them are equal exactly when they hold the same members.  Whole numbers that
fit into 64 bits are integers; every other number is a decimal, which the documents of this library
only carry along.
-/

namespace Caretaker

/-- A number with a fraction or an exponent, or one too large for 64 bits:
`digits * 10 ^ exponent`, with its sign. -/
structure Decimal where
  negative : Bool
  digits : Nat
  exponent : Int
  deriving DecidableEq, Repr

/-- A JSON document. -/
inductive Json where
  | null
  | bool (value : Bool)
  | int (value : Int)
  | decimal (value : Decimal)
  | text (value : String)
  | array (items : List Json)
  | object (members : List (String × Json))
  deriving Inhabited, Repr

namespace Json

/-- The members of an object, by name. -/
abbrev Members := List (String × Json)

mutual

/-- Equality of documents is decidable. -/
def decEq : (left right : Json) → Decidable (left = right)
  | .null, .null => isTrue rfl
  | .bool a, .bool b => decidable_of_iff (a = b) (by simp)
  | .int a, .int b => decidable_of_iff (a = b) (by simp)
  | .decimal a, .decimal b => decidable_of_iff (a = b) (by simp)
  | .text a, .text b => decidable_of_iff (a = b) (by simp)
  | .array a, .array b =>
    match decEqItems a b with
    | isTrue same => isTrue (by rw [same])
    | isFalse differ => isFalse (by simpa using differ)
  | .object a, .object b =>
    match decEqMembers a b with
    | isTrue same => isTrue (by rw [same])
    | isFalse differ => isFalse (by simpa using differ)
  | .null, .bool _ | .null, .int _ | .null, .decimal _ | .null, .text _ | .null, .array _
  | .null, .object _ | .bool _, .null | .bool _, .int _ | .bool _, .decimal _ | .bool _, .text _
  | .bool _, .array _ | .bool _, .object _ | .int _, .null | .int _, .bool _ | .int _, .decimal _
  | .int _, .text _ | .int _, .array _ | .int _, .object _ | .decimal _, .null
  | .decimal _, .bool _ | .decimal _, .int _ | .decimal _, .text _ | .decimal _, .array _
  | .decimal _, .object _ | .text _, .null | .text _, .bool _ | .text _, .int _
  | .text _, .decimal _ | .text _, .array _ | .text _, .object _ | .array _, .null
  | .array _, .bool _ | .array _, .int _ | .array _, .decimal _ | .array _, .text _
  | .array _, .object _ | .object _, .null | .object _, .bool _ | .object _, .int _
  | .object _, .decimal _ | .object _, .text _ | .object _, .array _ => isFalse nofun

/-- Equality of lists of items is decidable. -/
def decEqItems : (left right : List Json) → Decidable (left = right)
  | [], [] => isTrue rfl
  | [], _ :: _ | _ :: _, [] => isFalse nofun
  | a :: as, b :: bs =>
    match decEq a b, decEqItems as bs with
    | isTrue head, isTrue tail => isTrue (by rw [head, tail])
    | isFalse differ, _ => isFalse (by simp [differ])
    | _, isFalse differ => isFalse (by simp [differ])

/-- Equality of lists of members is decidable. -/
def decEqMembers : (left right : List (String × Json)) → Decidable (left = right)
  | [], [] => isTrue rfl
  | [], _ :: _ | _ :: _, [] => isFalse nofun
  | (k, a) :: as, (l, b) :: bs =>
    match decEq a b, decEqMembers as bs with
    | isTrue head, isTrue tail =>
      if names : k = l then isTrue (by rw [names, head, tail]) else isFalse (by simp [names])
    | isFalse differ, _ => isFalse (by simp [differ])
    | _, isFalse differ => isFalse (by simp [differ])

end

instance : DecidableEq Json := decEq

/-- The object with the given members, in ascending order of their names. -/
def ofMembers (members : Members) : Json := .object (Assoc.ofList members)

/-- The object of those fields that have a value. -/
def record (fields : List (String × Option Json)) : Json :=
  ofMembers (fields.filterMap fun field => field.2.map fun value => (field.1, value))

/-- An absent value is written as null. -/
def ofOption : Option Json → Json
  | none => .null
  | some value => value

/-- The object that a map of texts is written as. -/
def ofLabels (labels : LabelMap) : Json :=
  .object (labels.entries.map fun entry => (entry.1, .text entry.2))

/-- The array that a list of texts is written as. -/
def ofTexts (texts : List String) : Json := .array (texts.map .text)

/-- The members of an object. -/
def members? : Json → Option Members
  | .object members => some members
  | _ => none

/-- The items of an array. -/
def items? : Json → Option (List Json)
  | .array items => some items
  | _ => none

/-- The text of a text value. -/
def text? : Json → Option String
  | .text value => some value
  | _ => none

/-- The truth value of a boolean. -/
def bool? : Json → Option Bool
  | .bool value => some value
  | _ => none

/-- The integer of an integer value; a number written with a fraction is none. -/
def int? : Json → Option Int
  | .int value => some value
  | _ => none

/-- The member of an object with the given name. -/
def get? (document : Json) (name : String) : Option Json :=
  match document with
  | .object members => Assoc.get? members name
  | _ => none

/-- The member with the given name, where null stands for an absent one. -/
def given? (members : Members) (name : String) : Option Json :=
  match Assoc.get? members name with
  | none | some .null => none
  | some value => some value

/-- Give a member of an object a value; a value that is no object stays as it is. -/
def set (document : Json) (name : String) (value : Json) : Json :=
  match document with
  | .object members => .object (Assoc.insert members name value)
  | other => other

/-- Take a member out of an object. -/
def erase (document : Json) (name : String) : Json :=
  match document with
  | .object members => .object (Assoc.erase members name)
  | other => other

theorem ne_null_of_given? {members : Members} {name : String} {value : Json}
    (found : given? members name = some value) : value ≠ .null := by
  simp only [given?] at found
  split at found
  · cases found
  · cases found
  · next apart _ =>
    cases found
    exact fun isNull => apart (isNull ▸ rfl)

end Json

end Caretaker
