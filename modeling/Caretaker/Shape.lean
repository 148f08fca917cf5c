import Caretaker.Instant
import Caretaker.Json.Basic
import Caretaker.Text.Base64
import Caretaker.Word

/-!
# Shapes of documents

A shape says which documents describe a value of a kind: the members of its records, which of them
are required, and the form of each.  Reading a document under a shape has two halves.
`Shape.accepts` tells whether every member that the shape knows has the right form.  `Shape.fit`
gives the normal form of a document: unknown members and absent optional members are left out, and
absent required members are filled in.  `Shape.Normal` says what a normal form is without reference
to `fit`, and `Shape.fit_normal` says that `fit` reaches it.

A `Document` is a normal form of its shape; `Document.decode?` reads one and `Document.of`
completes a document that is known to have the right form.
-/

namespace Caretaker

/-- Whether a record always holds a member. -/
inductive Presence where
  | optional
  | required
  deriving DecidableEq, Repr

/-- The form of a document. -/
inductive Shape where
  /-- Any document. -/
  | any
  /-- A text. -/
  | text
  /-- One text and no other. -/
  | constant (value : String)
  /-- A text that stands for bytes. -/
  | base64
  /-- A text that stands for a moment. -/
  | time
  /-- A truth value. -/
  | flag
  /-- An integer of 32 bits. -/
  | int32
  /-- An integer of 64 bits. -/
  | int64
  /-- A text or an integer of 32 bits. -/
  | textOrInt32
  /-- An array of documents of one shape. -/
  | list (item : Shape)
  /-- An object whose members, under any names, have one shape. -/
  | map (value : Shape)
  /-- An object with known members. -/
  | record (fields : List (String × Presence × Shape))

namespace Shape

/-- The known members of a record: name, presence and shape. -/
abbrev Fields := List (String × Presence × Shape)

/-- A member that may be absent. -/
def optional (name : String) (shape : Shape) : String × Presence × Shape :=
  (name, .optional, shape)

/-- A member that is always there. -/
def required (name : String) (shape : Shape) : String × Presence × Shape :=
  (name, .required, shape)

/-- A map from text to text. -/
def texts : Shape := .map .text

/-- Whether null may stand for the absent member of a shape. -/
def admitsNull : Shape → Bool
  | .constant _ => false
  | _ => true

mutual

/-- Whether every member of a document that the shape knows has the right form. -/
def accepts : Shape → Json → Bool
  | .any, _ => true
  | .text, .text _ => true
  | .constant expected, .text value => value = expected
  | .base64, .text value => Base64.isValid value.toList
  | .time, .text value => (Instant.parse? value).isSome
  | .flag, .bool _ => true
  | .int32, .int value => isInt32 value
  | .int64, .int value => isInt64 value
  | .textOrInt32, .text _ => true
  | .textOrInt32, .int value => isInt32 value
  | .list item, .array items => items.all fun each => item.accepts each
  | .map value, .object members => members.all fun member => value.accepts member.2
  | .record fields, .object members => acceptsMembers fields members
  | _, _ => false

/-- Whether the members of an object that a list of fields knows have the right form. -/
def acceptsMembers : List (String × Presence × Shape) → Json.Members → Bool
  | [], _ => true
  | (name, _, shape) :: fields, members =>
    (match Assoc.get? members name with
      | none => true
      | some .null => shape.admitsNull
      | some value => shape.accepts value) && acceptsMembers fields members

end

mutual

/-- The normal form of a document; where the document has another form than the shape asks for, the
empty value of the shape stands in. -/
def fit : Shape → Json → Json
  | .any, document => document
  | .text, .text value => .text value
  | .text, _ => .text ""
  | .constant value, _ => .text value
  | .base64, .text value => if Base64.isValid value.toList then .text value else .text ""
  | .base64, _ => .text ""
  | .time, .text value => .text ((Instant.parse? value).getD default).text
  | .time, _ => .text (default : Instant).text
  | .flag, .bool value => .bool value
  | .flag, _ => .bool false
  | .int32, .int value => if isInt32 value then .int value else .int 0
  | .int32, _ => .int 0
  | .int64, .int value => if isInt64 value then .int value else .int 0
  | .int64, _ => .int 0
  | .textOrInt32, .text value => .text value
  | .textOrInt32, .int value => if isInt32 value then .int value else .int 0
  | .textOrInt32, _ => .int 0
  | .list item, .array items => .array (items.map fun each => item.fit each)
  | .list _, _ => .array []
  | .map value, .object members =>
    .object (Assoc.ofList (members.map fun member => (member.1, value.fit member.2)))
  | .map _, _ => .object []
  | .record fields, .object members => .object (fitMembers fields members)
  | .record fields, _ => .object (fitMembers fields [])

/-- The members of the normal form of a record, in the order of the fields. -/
def fitMembers : List (String × Presence × Shape) → Json.Members → Json.Members
  | [], _ => []
  | (name, presence, shape) :: fields, members =>
    match Json.given? members name, presence with
    | some value, _ => (name, shape.fit value) :: fitMembers fields members
    | none, .required => (name, shape.fit .null) :: fitMembers fields members
    | none, .optional => fitMembers fields members

end

mutual

/-- The normal forms of a shape. -/
def Normal : Shape → Json → Prop
  | .any, _ => True
  | .text, document => ∃ value, document = .text value
  | .constant value, document => document = .text value
  | .base64, document => ∃ value, document = .text value ∧ Base64.isValid value.toList = true
  | .time, document => ∃ instant : Instant, document = .text instant.text
  | .flag, document => ∃ value, document = .bool value
  | .int32, document => ∃ value, document = .int value ∧ isInt32 value = true
  | .int64, document => ∃ value, document = .int value ∧ isInt64 value = true
  | .textOrInt32, document =>
    (∃ value, document = .text value) ∨ ∃ value, document = .int value ∧ isInt32 value = true
  | .list item, document => ∃ items, document = .array items ∧ ∀ each ∈ items, item.Normal each
  | .map value, document =>
    ∃ members, document = .object members ∧ Assoc.Ascending members ∧
      ∀ member ∈ members, value.Normal member.2
  | .record fields, document =>
    ∃ members, document = .object members ∧ NormalMembers fields members

/-- The members of the normal forms of a record: each field is written in its turn, unless it is
optional and absent. -/
def NormalMembers : List (String × Presence × Shape) → Json.Members → Prop
  | [], members => members = []
  | (name, presence, shape) :: fields, members =>
    (∃ value rest, members = (name, value) :: rest ∧ (presence = .optional → value ≠ .null) ∧
      shape.Normal value ∧ NormalMembers fields rest) ∨
    (presence = .optional ∧ NormalMembers fields members)

end

/-- A value that is not null has a normal form that is not null. -/
theorem fit_ne_null (shape : Shape) {document : Json} (present : document ≠ .null) :
    shape.fit document ≠ .null := by
  cases shape <;> cases document <;> simp_all [fit] <;> split <;> simp

theorem mem_ofList {members : List (String × Json)} {member : String × Json}
    (present : member ∈ Assoc.ofList members) : member ∈ members := by
  have step : ∀ (steps start : List (String × Json)),
      member ∈ steps.foldl (fun acc entry => Assoc.insert acc entry.1 entry.2) start →
        member ∈ steps ∨ member ∈ start := by
    intro steps
    induction steps with
    | nil => exact fun _ found => Or.inr found
    | cons entry rest ih =>
      intro start found
      rcases ih _ found with later | earlier
      · exact Or.inl (List.mem_cons_of_mem _ later)
      · rcases Assoc.mem_of_mem_insert earlier with rfl | old
        · exact Or.inl List.mem_cons_self
        · exact Or.inr old
  rcases step members [] present with found | found
  · exact found
  · cases found

mutual

/-- The normal form of a document is a normal form. -/
theorem fit_normal : ∀ (shape : Shape) (document : Json), shape.Normal (shape.fit document)
  | .any, _ => trivial
  | .text, document => by cases document <;> simp [fit, Normal]
  | .constant value, document => by cases document <;> rfl
  | .base64, document => by
    cases document <;> simp only [fit, Normal]
    case text value =>
      split
      · exact ⟨value, rfl, by assumption⟩
      · exact ⟨"", rfl, rfl⟩
    all_goals exact ⟨"", rfl, rfl⟩
  | .time, document => by cases document <;> exact ⟨_, rfl⟩
  | .flag, document => by cases document <;> simp [fit, Normal]
  | .int32, document => by
    cases document <;> simp only [fit, Normal]
    case int value =>
      split
      · exact ⟨value, rfl, by assumption⟩
      · exact ⟨0, rfl, rfl⟩
    all_goals exact ⟨0, rfl, rfl⟩
  | .int64, document => by
    cases document <;> simp only [fit, Normal]
    case int value =>
      split
      · exact ⟨value, rfl, by assumption⟩
      · exact ⟨0, rfl, rfl⟩
    all_goals exact ⟨0, rfl, rfl⟩
  | .textOrInt32, document => by
    cases document <;> simp only [fit, Normal]
    case int value =>
      split
      · exact Or.inr ⟨value, rfl, by assumption⟩
      · exact Or.inr ⟨0, rfl, rfl⟩
    case text value => exact Or.inl ⟨value, rfl⟩
    all_goals exact Or.inr ⟨0, rfl, rfl⟩
  | .list item, document => by
    cases document
    case array items =>
      simp only [fit, Normal]
      refine ⟨_, rfl, ?_⟩
      intro each member
      obtain ⟨before, _, rfl⟩ := List.mem_map.mp member
      exact fit_normal item before
    all_goals exact ⟨[], rfl, fun _ member => by cases member⟩
  | .map value, document => by
    cases document
    case object members =>
      simp only [fit, Normal]
      refine ⟨_, rfl, Assoc.ascending_ofList _, ?_⟩
      intro member present
      obtain ⟨before, _, rfl⟩ := List.mem_map.mp (mem_ofList present)
      exact fit_normal value before.2
    all_goals exact ⟨[], rfl, Assoc.ascending_nil, fun _ member => by cases member⟩
  | .record fields, document => by
    cases document
    case object members => exact ⟨_, rfl, fitMembers_normal fields members⟩
    all_goals exact ⟨_, rfl, fitMembers_normal fields []⟩

/-- The fitted members of a record are those of a normal form. -/
theorem fitMembers_normal : ∀ (fields : List (String × Presence × Shape)) (members : Json.Members),
    NormalMembers fields (fitMembers fields members)
  | [], _ => rfl
  | (name, presence, shape) :: fields, members => by
    have rest := fitMembers_normal fields members
    simp only [fitMembers, NormalMembers]
    split
    · next value given =>
      exact Or.inl ⟨_, _, rfl, fun _ => fit_ne_null shape (Json.ne_null_of_given? given),
        fit_normal shape value, rest⟩
    · exact Or.inl ⟨_, _, rfl, nofun, fit_normal shape .null, rest⟩
    · exact Or.inr ⟨rfl, rest⟩

end

end Shape

/-- A document in the normal form of its shape. -/
structure Document (shape : Shape) where
  json : Json
  normal : shape.Normal json

namespace Document

variable {shape : Shape}

/-- The normal form of a document. -/
def of (shape : Shape) (json : Json) : Document shape := ⟨shape.fit json, shape.fit_normal json⟩

/-- Read a document under a shape. -/
def decode? (shape : Shape) (json : Json) : Option (Document shape) :=
  if shape.accepts json then some (of shape json) else none

/-- The document of the absent value: required members only. -/
def empty : Document shape := of shape .null

instance : Inhabited (Document shape) := ⟨empty⟩

instance : DecidableEq (Document shape) := fun left right =>
  decidable_of_iff (left.json = right.json) (by cases left; cases right; simp)

/-- The members of a document that is a record. -/
def members (document : Document shape) : Json.Members := document.json.members?.getD []

end Document

end Caretaker
