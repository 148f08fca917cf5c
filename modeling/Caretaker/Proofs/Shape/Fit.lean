import Caretaker.Build.Part
import Caretaker.Proofs.Merge.Total

/-!
# Reading in a completed document

Where a document has a value in the fields of nested records, its completion under a shape has the
completed value (`Shape.at?_fit`), and where it lacks an optional field, its completion lacks it as
well (`Shape.at?_fit_of_absent`).  So what a child was built from says what its document holds
(`at?_childOf`).
-/

namespace Caretaker

namespace Json

/-- The value that a path through members of objects leads to. -/
def follow? (document : Json) : List String → Option Json
  | [] => some document
  | name :: rest => (document.get? name).bind fun child => child.follow? rest

/-- The items of the array at a place. -/
def itemsAt (document : Json) (path : List String) : List Json :=
  ((document.at? path).bind items?).getD []

theorem itemsAt_of_at? {document : Json} {path : List String} {items : List Json}
    (there : document.at? path = some (.array items)) : document.itemsAt path = items := by
  rw [itemsAt, there]
  rfl

theorem follow?_append (document : Json) (left right : List String) :
    document.follow? (left ++ right) = (document.follow? left).bind (·.follow? right) := by
  induction left generalizing document with
  | nil => rfl
  | cons name rest ih =>
    rw [List.cons_append, follow?, follow?, Option.bind_assoc]
    exact congrArg _ (funext fun child => ih child)

/-- Nothing follows on null. -/
theorem ne_null_of_follow? {document value : Json} {path : List String}
    (there : document.follow? path = some value) (notNull : value ≠ .null) : document ≠ .null := by
  rintro rfl
  cases path with
  | nil =>
    cases there
    exact notNull rfl
  | cons name rest => cases there

end Json

namespace Shape

variable {shape leaf : Shape}

/-- A completed document holds the completed values of the given one. -/
theorem at?_fit (ordered : shape.isOrdered = true) {path : List String}
    (found : shape.at? path = some leaf) {raw value : Json} (there : raw.follow? path = some value)
    (notNull : value ≠ .null) : (shape.fit raw).at? path = some (leaf.fit value) := by
  induction path generalizing shape raw with
  | nil =>
    cases found
    cases there
    rfl
  | cons name rest ih =>
    obtain ⟨fields, field, rfl, named, below⟩ := exists_field_of_at? found
    obtain ⟨child, held, follows⟩ := Option.bind_eq_some_iff.mp there
    cases raw with
    | object members =>
      rw [isOrdered] at ordered
      have heldThere : Assoc.get? (fitMembers fields members) name = some (field.2.fit child) := by
        rw [get?_fitMembers_eq (ascending_of_areOrdered ordered), named, Option.bind_some,
          show Assoc.get? members name = some child from held,
          fitMember_some (Json.ne_null_of_follow? follows notNull)]
      rw [fit, Json.at?, show Json.child? (.object (fitMembers fields members)) name = _ from
        heldThere, Option.bind_some]
      exact ih (isOrdered_of_get? ordered named) below follows
    | _ => cases held

/-- A completed document lacks the optional fields that the given one lacks. -/
theorem at?_fit_of_absent {fields : Fields} (ordered : (record fields).isOrdered = true)
    {name : String} {inner : Shape} (named : Assoc.get? fields name = some (.optional, inner))
    {members : Json.Members} (absent : Assoc.get? members name = none) (rest : List String) :
    ((record fields).fit (.object members)).at? (name :: rest) = none := by
  rw [isOrdered] at ordered
  have lacks : Assoc.get? (fitMembers fields members) name = none := by
    rw [get?_fitMembers_eq (ascending_of_areOrdered ordered), named, absent]
    rfl
  rw [fit, Json.at?, show Json.child? (.object (fitMembers fields members)) name = none from lacks]
  rfl

/-- The items of a completed document are those of the given one, each completed. -/
theorem itemsAt_fit (ordered : shape.isOrdered = true) {path : List String}
    (found : shape.at? path = some (.list leaf)) {raw : Json} {items : List Json}
    (there : raw.follow? path = some (.array items)) :
    (shape.fit raw).itemsAt path = items.map leaf.fit :=
  Json.itemsAt_of_at? ((at?_fit ordered found there (by simp)).trans (by rw [fit]))

/-- Labels are a normal form. -/
theorem fit_ofLabels (labels : LabelMap) : texts.fit (.ofLabels labels) = .ofLabels labels := by
  refine fit_of_normal texts rfl _ ⟨_, rfl, ?_, fun member present => ?_⟩
  · have keys : (labels.entries.map fun entry => (entry.1, Json.text entry.2)).map Prod.fst =
        labels.entries.map Prod.fst := by
      rw [List.map_map]
      rfl
    rw [Assoc.Ascending, keys]
    exact labels.ascending
  · obtain ⟨entry, -, rfl⟩ := List.mem_map.mp present
    exact ⟨entry.2, rfl⟩

/-- Integers of 32 bits are a normal form. -/
theorem fit_int32 (value : Int32) : int32.fit (.int value.toInt) = .int value.toInt := by
  rw [fit, if_pos (Json.isInt32_toInt value)]

end Shape

/-- The document of a child holds the completed values that it was built from. -/
theorem at?_childOf {kind : ChildKind} (metadata : Metadata) {raw value : Json} {name : String}
    {rest : List String} {leaf : Shape} (notHead : name ∉ headNames)
    (found : kind.shape.at? (name :: rest) = some leaf)
    (there : raw.follow? (name :: rest) = some value) (notNull : value ≠ .null) :
    (Child.of kind metadata raw).encode.at? (name :: rest) = some (leaf.fit value) :=
  (at?_encode _ notHead rest).trans
    (Shape.at?_fit (Shape.isOrdered_child kind) found there notNull)

theorem itemsAt_childOf {kind : ChildKind} (metadata : Metadata) {raw : Json} {items : List Json}
    {name : String} {rest : List String} {leaf : Shape} (notHead : name ∉ headNames)
    (found : kind.shape.at? (name :: rest) = some (.list leaf))
    (there : raw.follow? (name :: rest) = some (.array items)) :
    (Child.of kind metadata raw).encode.itemsAt (name :: rest) = items.map leaf.fit :=
  Json.itemsAt_of_at?
    ((at?_childOf metadata notHead found there (by simp)).trans (by rw [Shape.fit]))

end Caretaker
