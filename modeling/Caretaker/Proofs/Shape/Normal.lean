import Caretaker.Proofs.Instant
import Caretaker.Proofs.Json.Record
import Caretaker.Shape

/-!
# Normal forms by look-up

The fields of every known record are listed in ascending order (`Shape.isOrdered`).  Under such a
shape a normal form of a record is an object with ascending members, each of which suits the field
of its name (`Shape.normalMembers_iff`), and fitting acts on each member by itself
(`Shape.get?_fitMembers`).  A normal form has the right form (`Shape.accepts_of_normal`) and fitting
leaves it alone (`Shape.fit_of_normal`), so a document read back from its own text is the same
document (`Document.decode?_json`).
-/

namespace Caretaker

namespace Shape

mutual

/-- Whether the fields of every record of a shape ascend. -/
def isOrdered : Shape → Bool
  | .list item => item.isOrdered
  | .map value => value.isOrdered
  | .record fields => areOrdered fields
  | _ => true

/-- Whether fields ascend, and those of their shapes.  It is enough that each is below the next. -/
def areOrdered : List (String × Presence × Shape) → Bool
  | [] => true
  | (name, _, shape) :: fields =>
    fields.head?.all (fun next => decide (name < next.1)) && shape.isOrdered && areOrdered fields

end

theorem ascending_of_areOrdered {fields : Fields} (ordered : areOrdered fields = true) :
    Assoc.Ascending fields := by
  induction fields with
  | nil => exact Assoc.ascending_nil
  | cons field rest ih =>
    obtain ⟨name, presence, shape⟩ := field
    simp only [areOrdered, Bool.and_eq_true] at ordered
    obtain ⟨⟨below, -⟩, restOrdered⟩ := ordered
    have sorted := ih restOrdered
    refine Assoc.ascending_cons.mpr ⟨?_, sorted⟩
    cases rest with
    | nil => simp
    | cons next later =>
      have first : name < next.1 := by simpa using below
      intro other member
      rcases List.mem_cons.mp member with rfl | member
      · exact first
      · exact Std.lt_trans first ((Assoc.ascending_cons.mp sorted).1 other member)

theorem areOrdered_cons {name : String} {presence : Presence} {shape : Shape} {fields : Fields}
    (ordered : areOrdered ((name, presence, shape) :: fields) = true) :
    (∀ field ∈ fields, name < field.1) ∧ shape.isOrdered = true ∧ areOrdered fields = true := by
  have sorted := ascending_of_areOrdered ordered
  simp only [areOrdered, Bool.and_eq_true] at ordered
  exact ⟨(Assoc.ascending_cons.mp sorted).1, ordered.1.2, ordered.2⟩

theorem isOrdered_of_get? {fields : Fields} (ordered : areOrdered fields = true) {name : String}
    {presence : Presence} {shape : Shape}
    (found : Assoc.get? fields name = some (presence, shape)) : shape.isOrdered = true := by
  induction fields with
  | nil => cases found
  | cons field rest ih =>
    obtain ⟨k, p, s⟩ := field
    obtain ⟨-, head, restOrdered⟩ := areOrdered_cons ordered
    rw [Assoc.get?_cons] at found
    split at found
    · cases found
      exact head
    · exact ih restOrdered found

/-- What fitting makes of the member of a field: a value is fitted, and a required field without one
gets the empty value of its shape. -/
def fitField (field : Presence × Shape) (given : Option Json) : Option Json :=
  match given, field.1 with
  | some value, _ => some (field.2.fit value)
  | none, .required => some (field.2.fit .null)
  | none, .optional => none

/-- Whether the member of a field suits it; there must be no member without a field. -/
def NormalField : Option (Presence × Shape) → Option Json → Prop
  | none, value => value = none
  | some (presence, _), none => presence = .optional
  | some (presence, shape), some value =>
    (presence = .optional → value ≠ .null) ∧ shape.Normal value

theorem sublist_fitMembers (fields : Fields) (members : Json.Members) :
    ((fitMembers fields members).map Prod.fst).Sublist (fields.map Prod.fst) := by
  induction fields with
  | nil => exact List.Sublist.refl []
  | cons field rest ih =>
    obtain ⟨name, presence, shape⟩ := field
    simp only [fitMembers]
    split
    · exact ih.cons_cons name
    · exact ih.cons_cons name
    · exact ih.cons name

theorem ascending_fitMembers {fields : Fields} (sorted : Assoc.Ascending fields)
    (members : Json.Members) : Assoc.Ascending (fitMembers fields members) :=
  List.Pairwise.sublist (sublist_fitMembers fields members) sorted

theorem fitMembers_cons (name : String) (field : Presence × Shape) (fields : Fields)
    (members : Json.Members) :
    fitMembers ((name, field) :: fields) members =
      match fitField field (Json.given? members name) with
      | some value => (name, value) :: fitMembers fields members
      | none => fitMembers fields members := by
  obtain ⟨presence, shape⟩ := field
  simp only [fitMembers, fitField]
  cases Json.given? members name with
  | some value => rfl
  | none => cases presence <;> rfl

/-- Fitting acts on each member by itself. -/
theorem get?_fitMembers {fields : Fields} (sorted : Assoc.Ascending fields)
    (members : Json.Members) (name : String) :
    Assoc.get? (fitMembers fields members) name =
      (Assoc.get? fields name).bind fun field => fitField field (Json.given? members name) := by
  induction fields with
  | nil => rfl
  | cons field rest ih =>
    obtain ⟨k, field⟩ := field
    obtain ⟨below, restSorted⟩ := Assoc.ascending_cons.mp sorted
    have tail := ih restSorted
    rw [fitMembers_cons, Assoc.get?_cons]
    by_cases same : k = name
    · subst same
      have absent : Assoc.get? rest k = none :=
        Assoc.get?_eq_none fun other member => (Std.ne_of_lt (below other member)).symm
      rw [absent] at tail
      rw [if_pos rfl, Option.bind_some]
      split
      · next fitted => rw [fitted, Assoc.get?_cons_self]
      · next fitted => rw [fitted, tail, Option.bind_none]
    · rw [if_neg same, ← tail]
      split
      · exact Assoc.get?_cons_of_ne same _ _
      · rfl

/-- The entries that a list of names has values for. -/
private theorem get?_collect (fields : Fields) (members : Json.Members) (name : String) :
    Assoc.get? (fields.filterMap fun field =>
        (Assoc.get? members field.1).map fun value => (field.1, value)) name =
      (Assoc.get? fields name).bind fun _ => Assoc.get? members name := by
  induction fields with
  | nil => rfl
  | cons field rest ih =>
    obtain ⟨k, field⟩ := field
    rw [List.filterMap_cons, Assoc.get?_cons]
    cases value : Assoc.get? members k with
    | none =>
      simp only [Option.map_none]
      rw [ih]
      by_cases same : k = name
      · subst same
        simp [value]
      · rw [if_neg same]
    | some found =>
      simp only [Option.map_some]
      rw [Assoc.get?_cons, ih]
      by_cases same : k = name
      · subst same
        simp [value]
      · rw [if_neg same, if_neg same]

private theorem normalMembers_collect (fields : Fields) (members : Json.Members)
    (suits : ∀ field ∈ fields, NormalField (some field.2) (Assoc.get? members field.1)) :
    NormalMembers fields (fields.filterMap fun field =>
      (Assoc.get? members field.1).map fun value => (field.1, value)) := by
  induction fields with
  | nil => rfl
  | cons field rest ih =>
    obtain ⟨name, presence, shape⟩ := field
    have tail := ih fun other member => suits other (List.mem_cons_of_mem _ member)
    have head := suits _ List.mem_cons_self
    rw [List.filterMap_cons, NormalMembers]
    cases value : Assoc.get? members name with
    | none =>
      rw [value] at head
      exact Or.inr ⟨head, tail⟩
    | some found =>
      rw [value] at head
      exact Or.inl ⟨found, _, rfl, head.1, head.2, tail⟩

theorem NormalMembers.field {fields : Fields} {members : Json.Members}
    (sorted : Assoc.Ascending fields) (normal : NormalMembers fields members) (name : String) :
    NormalField (Assoc.get? fields name) (Assoc.get? members name) := by
  induction fields generalizing members with
  | nil =>
    rw [NormalMembers] at normal
    subst normal
    rfl
  | cons field rest ih =>
    obtain ⟨k, presence, shape⟩ := field
    obtain ⟨below, restSorted⟩ := Assoc.ascending_cons.mp sorted
    have absent : Assoc.get? rest k = none :=
      Assoc.get?_eq_none fun other member => (Std.ne_of_lt (below other member)).symm
    rw [NormalMembers] at normal
    rcases normal with ⟨value, tail, rfl, notNull, suits, tailNormal⟩ | ⟨optional, tailNormal⟩
    · rw [Assoc.get?_cons, Assoc.get?_cons]
      split
      · exact ⟨notNull, suits⟩
      · exact ih restSorted tailNormal
    · have tail := ih restSorted tailNormal
      rw [Assoc.get?_cons]
      split
      case isTrue same =>
        subst same
        rw [absent] at tail
        rw [show Assoc.get? members k = none from tail]
        exact optional
      case isFalse => exact tail

theorem NormalMembers.ascending {fields : Fields} {members : Json.Members}
    (sorted : Assoc.Ascending fields) (normal : NormalMembers fields members) :
    Assoc.Ascending members := by
  induction fields generalizing members with
  | nil =>
    rw [NormalMembers] at normal
    subst normal
    exact Assoc.ascending_nil
  | cons field rest ih =>
    obtain ⟨k, presence, shape⟩ := field
    obtain ⟨below, restSorted⟩ := Assoc.ascending_cons.mp sorted
    rw [NormalMembers] at normal
    rcases normal with ⟨value, tail, rfl, -, -, tailNormal⟩ | ⟨-, tailNormal⟩
    · refine Assoc.ascending_cons.mpr ⟨?_, ih restSorted tailNormal⟩
      intro other member
      have tailField := tailNormal.field restSorted other.1
      have present : (Assoc.get? tail other.1).isSome :=
        Assoc.isSome_get?_iff.mpr (List.mem_map_of_mem member)
      cases found : Assoc.get? rest other.1 with
      | none =>
        rw [found] at tailField
        rw [show Assoc.get? tail other.1 = none from tailField] at present
        cases present
      | some field => exact below _ (Assoc.mem_of_get? found)
    · exact ih restSorted tailNormal

/-- A normal form of a record has ascending members, each of which suits the field of its name. -/
theorem normalMembers_iff {fields : Fields} (sorted : Assoc.Ascending fields)
    {members : Json.Members} :
    NormalMembers fields members ↔ Assoc.Ascending members ∧
      ∀ name, NormalField (Assoc.get? fields name) (Assoc.get? members name) := by
  constructor
  · exact fun normal => ⟨normal.ascending sorted, normal.field sorted⟩
  · rintro ⟨ascending, suits⟩
    have collected := normalMembers_collect fields members fun field member => by
      have each := suits field.1
      rwa [Assoc.get?_of_mem sorted.distinct member] at each
    refine Assoc.eq_of_get?_eq (collected.ascending sorted) ascending (fun name => ?_) ▸ collected
    rw [get?_collect]
    have each := suits name
    cases found : Assoc.get? fields name with
    | none =>
      rw [found] at each
      rw [show Assoc.get? members name = none from each]
      rfl
    | some field => rfl

theorem fitField_of_normalField {field : Presence × Shape} {members : Json.Members} {name : String}
    (settled : ∀ document, field.2.Normal document → field.2.fit document = document)
    (suits : NormalField (some field) (Assoc.get? members name)) :
    fitField field (Json.given? members name) = Assoc.get? members name := by
  obtain ⟨presence, shape⟩ := field
  cases given : Json.given? members name with
  | some value =>
    have found := (Json.given?_eq_some_iff.mp given).1
    rw [found] at suits ⊢
    simp only [fitField, settled value suits.2]
  | none =>
    rcases Json.given?_eq_none_iff.mp given with absent | isNull
    · rw [absent] at suits ⊢
      rw [show presence = .optional from suits]
      rfl
    · rw [isNull] at suits ⊢
      cases presence with
      | optional => exact absurd rfl (suits.1 rfl)
      | required => exact congrArg some (settled .null suits.2)

mutual

/-- Fitting leaves a normal form alone. -/
theorem fit_of_normal : ∀ (shape : Shape), shape.isOrdered = true → ∀ (document : Json),
    shape.Normal document → shape.fit document = document
  | .any, _, _, _ => rfl
  | .text, _, _, ⟨_, same⟩ => by subst same; rfl
  | .constant _, _, _, same => same ▸ rfl
  | .base64, _, _, ⟨_, same, valid⟩ => by subst same; simp [fit, valid]
  | .time, _, _, ⟨_, same⟩ => by subst same; simp [fit, Instant.parse?_text]
  | .flag, _, _, ⟨_, same⟩ => by subst same; rfl
  | .int32, _, _, ⟨_, same, range⟩ => by subst same; simp [fit, range]
  | .int64, _, _, ⟨_, same, range⟩ => by subst same; simp [fit, range]
  | .textOrInt32, _, _, .inl ⟨_, same⟩ => by subst same; rfl
  | .textOrInt32, _, _, .inr ⟨_, same, range⟩ => by subst same; simp [fit, range]
  | .list item, ordered, _, ⟨items, same, normal⟩ => by
    subst same
    rw [fit, Json.array.injEq]
    refine (List.map_congr_left fun each member => ?_).trans (List.map_id items)
    exact fit_of_normal item (by simpa [isOrdered] using ordered) each (normal each member)
  | .map value, ordered, _, ⟨members, same, sorted, normal⟩ => by
    subst same
    have settled : (members.map fun member => (member.1, value.fit member.2)) = members := by
      refine (List.map_congr_left fun member present => ?_).trans (List.map_id members)
      rw [fit_of_normal value (by simpa [isOrdered] using ordered) _ (normal member present)]
      rfl
    rw [fit, settled, Assoc.ofList_of_ascending sorted]
  | .record fields, ordered, _, ⟨members, same, normal⟩ => by
    subst same
    have fieldsOrdered : areOrdered fields = true := by simpa [isOrdered] using ordered
    have sorted := ascending_of_areOrdered fieldsOrdered
    rw [fit, Json.object.injEq]
    refine Assoc.eq_of_get?_eq (ascending_fitMembers sorted members) (normal.ascending sorted)
      fun name => ?_
    rw [get?_fitMembers sorted]
    have suits := normal.field sorted name
    cases found : Assoc.get? fields name with
    | none =>
      rw [found] at suits
      exact (show Assoc.get? members name = none from suits).symm
    | some field =>
      rw [found] at suits
      rw [Option.bind_some]
      exact fitField_of_normalField (fit_of_normalFields fields fieldsOrdered name field found) suits

/-- Fitting under the shape of a field leaves a normal form alone. -/
theorem fit_of_normalFields : ∀ (fields : List (String × Presence × Shape)),
    areOrdered fields = true → ∀ (name : String) (field : Presence × Shape),
      Assoc.get? fields name = some field → ∀ (document : Json),
        field.2.Normal document → field.2.fit document = document
  | [], _, _, _, found, _, _ => by cases found
  | (k, _, shape) :: fields, ordered, name, field, found, document, normal => by
    obtain ⟨-, head, rest⟩ := areOrdered_cons ordered
    rw [Assoc.get?_cons] at found
    split at found
    · cases found
      exact fit_of_normal shape head document normal
    · exact fit_of_normalFields fields rest name field found document normal

end

theorem admitsNull_of_normal {shape : Shape} (normal : shape.Normal .null) :
    shape.admitsNull = true := by
  cases shape with
  | constant value => cases normal
  | _ => rfl

mutual

/-- A normal form has the right form. -/
theorem accepts_of_normal : ∀ (shape : Shape), shape.isOrdered = true → ∀ (document : Json),
    shape.Normal document → shape.accepts document = true
  | .any, _, _, _ => rfl
  | .text, _, _, ⟨_, same⟩ => by subst same; rfl
  | .constant _, _, _, same => by rw [Normal] at same; subst same; simp [accepts]
  | .base64, _, _, ⟨_, same, valid⟩ => by subst same; simp [accepts, valid]
  | .time, _, _, ⟨_, same⟩ => by subst same; simp [accepts, Instant.parse?_text]
  | .flag, _, _, ⟨_, same⟩ => by subst same; rfl
  | .int32, _, _, ⟨_, same, range⟩ => by subst same; simp [accepts, range]
  | .int64, _, _, ⟨_, same, range⟩ => by subst same; simp [accepts, range]
  | .textOrInt32, _, _, .inl ⟨_, same⟩ => by subst same; rfl
  | .textOrInt32, _, _, .inr ⟨_, same, range⟩ => by subst same; simp [accepts, range]
  | .list item, ordered, _, ⟨items, same, normal⟩ => by
    subst same
    rw [accepts, List.all_eq_true]
    exact fun each member =>
      accepts_of_normal item (by simpa [isOrdered] using ordered) each (normal each member)
  | .map value, ordered, _, ⟨members, same, _, normal⟩ => by
    subst same
    rw [accepts, List.all_eq_true]
    exact fun member present =>
      accepts_of_normal value (by simpa [isOrdered] using ordered) _ (normal member present)
  | .record fields, ordered, _, ⟨members, same, normal⟩ => by
    subst same
    have fieldsOrdered : areOrdered fields = true := by simpa [isOrdered] using ordered
    have sorted := ascending_of_areOrdered fieldsOrdered
    apply acceptsMembers_of_normal fields fieldsOrdered members
    intro name presence shape found
    have suits := normal.field sorted name
    rw [found] at suits
    intro value present
    rw [present] at suits
    exact suits.2

/-- Members with normal values have the right form. -/
theorem acceptsMembers_of_normal : ∀ (fields : List (String × Presence × Shape)),
    areOrdered fields = true → ∀ (members : Json.Members),
      (∀ name presence shape, Assoc.get? fields name = some (presence, shape) →
        ∀ value, Assoc.get? members name = some value → shape.Normal value) →
      acceptsMembers fields members = true
  | [], _, _, _ => rfl
  | (name, presence, shape) :: fields, ordered, members, normal => by
    obtain ⟨below, head, rest⟩ := areOrdered_cons ordered
    rw [acceptsMembers, Bool.and_eq_true]
    constructor
    · have headNormal := normal name presence shape (Assoc.get?_cons_self _ _ _)
      split
      · rfl
      · next isNull => exact admitsNull_of_normal (headNormal .null isNull)
      · next value _ present => exact accepts_of_normal shape head value (headNormal value present)
    · apply acceptsMembers_of_normal fields rest members
      intro other p s found
      have apart : name ≠ other := Std.ne_of_lt (below _ (Assoc.mem_of_get? found))
      exact normal other p s ((Assoc.get?_cons_of_ne apart _ _).trans found)

end

theorem acceptsMembers_congr {fields : Fields} {left right : Json.Members}
    (alike : ∀ field ∈ fields, Assoc.get? left field.1 = Assoc.get? right field.1) :
    acceptsMembers fields left = acceptsMembers fields right := by
  induction fields with
  | nil => rfl
  | cons field rest ih =>
    obtain ⟨name, presence, shape⟩ := field
    rw [acceptsMembers, acceptsMembers, alike _ List.mem_cons_self,
      ih fun other member => alike other (List.mem_cons_of_mem _ member)]

theorem fitMembers_congr {fields : Fields} {left right : Json.Members}
    (alike : ∀ field ∈ fields, Assoc.get? left field.1 = Assoc.get? right field.1) :
    fitMembers fields left = fitMembers fields right := by
  induction fields with
  | nil => rfl
  | cons field rest ih =>
    obtain ⟨name, field⟩ := field
    rw [fitMembers_cons, fitMembers_cons, Json.given?_congr (alike _ List.mem_cons_self),
      ih fun other member => alike other (List.mem_cons_of_mem _ member)]

/-- The fields of a record. -/
def fields : Shape → Fields
  | .record fields => fields
  | _ => []

theorem fit_fit (shape : Shape) (ordered : shape.isOrdered = true) (document : Json) :
    shape.fit (shape.fit document) = shape.fit document :=
  fit_of_normal shape ordered _ (fit_normal shape document)

end Shape

namespace Document

variable {shape : Shape}

@[ext]
theorem ext {left right : Document shape} (same : left.json = right.json) : left = right := by
  cases left
  cases right
  cases same
  rfl

theorem of_json (ordered : shape.isOrdered = true) (document : Document shape) :
    of shape document.json = document :=
  ext (Shape.fit_of_normal shape ordered _ document.normal)

/-- The members of a record in normal form. -/
theorem exists_members {fields : Shape.Fields} (document : Document (.record fields)) :
    ∃ members, document.json = .object members ∧ document.members = members ∧
      Shape.NormalMembers fields members := by
  obtain ⟨members, same, normal⟩ := document.normal
  exact ⟨members, same, by rw [Document.members, same]; rfl, normal⟩

/-- Reading a record only depends on the members that have a field. -/
theorem decode?_congr {fields : Shape.Fields} {left right : Json.Members}
    (alike : ∀ field ∈ fields, Assoc.get? left field.1 = Assoc.get? right field.1) :
    decode? (.record fields) (.object left) = decode? (.record fields) (.object right) := by
  have fitted : of (.record fields) (.object left) = of (.record fields) (.object right) :=
    ext (congrArg Json.object (Shape.fitMembers_congr alike))
  rw [decode?, decode?, Shape.accepts, Shape.accepts, Shape.acceptsMembers_congr alike, fitted]

/-- A document is read back from its own text. -/
theorem decode?_json (ordered : shape.isOrdered = true) (document : Document shape) :
    decode? shape document.json = some document := by
  rw [decode?, if_pos (Shape.accepts_of_normal shape ordered _ document.normal), of_json ordered]

end Document

end Caretaker
