import Caretaker.Json.Field
import Caretaker.Proofs.Entries
import Caretaker.Proofs.Instant

/-!
# Reading what a record wrote

A record is written as the object of those fields that have a value, in ascending order.  Looking up
a field in it gives back what was written (`Json.exists_record`), and each way to read a field gives
back the value that its counterpart wrote.
-/

namespace Caretaker

namespace Json

variable {α : Type}

theorem given?_eq (members : Members) (name : String) :
    given? members name = (Assoc.get? members name).filter fun value => value ≠ .null := by
  simp only [given?]
  cases Assoc.get? members name with
  | none => rfl
  | some value => cases value <;> rfl

theorem given?_eq_some_iff {members : Members} {name : String} {value : Json} :
    given? members name = some value ↔ Assoc.get? members name = some value ∧ value ≠ .null := by
  simp [given?_eq, Option.filter_eq_some_iff]

theorem given?_eq_none_iff {members : Members} {name : String} :
    given? members name = none ↔
      Assoc.get? members name = none ∨ Assoc.get? members name = some .null := by
  rw [given?_eq]
  cases Assoc.get? members name <;> simp

theorem given?_congr {left right : Members} {name : String}
    (same : Assoc.get? left name = Assoc.get? right name) :
    given? left name = given? right name := by
  rw [given?_eq, given?_eq, same]

/-- A reader goes on with each field that it has read. -/
theorem bind_of_read {β : Type} {field : Option α} {value : α} (read : field = some value)
    (next : α → Option β) : (field >>= next) = next value := by
  rw [read]
  rfl

/-- A record is an object whose members are its fields with a value. -/
theorem exists_record {document : Json} {fields : List (String × Option Json)}
    (written : document = record fields) (distinct : Assoc.Distinct fields) :
    ∃ members, document = .object members ∧ Assoc.Ascending members ∧
      ∀ name, Assoc.get? members name = (Assoc.get? fields name).join := by
  refine ⟨_, written, Assoc.ascending_ofList _, fun name => ?_⟩
  have named : Assoc.Distinct
      (fields.filterMap fun field => field.2.map fun value => (field.1, value)) := by
    refine List.Sublist.nodup ?_ distinct
    clear distinct written
    induction fields with
    | nil => exact List.Sublist.refl _
    | cons field rest ih =>
      obtain ⟨k, value⟩ := field
      cases value with
      | none => exact ih.cons k
      | some value => exact ih.cons_cons k
  rw [Assoc.get?_ofList named, Assoc.get?_filterMap distinct]

theorem optionalField_of_get? {members : Members} {name : String} {read : Json → Option α}
    {value : Option α} (write : α → Json)
    (found : Assoc.get? members name = value.map write)
    (back : ∀ each ∈ value, read (write each) = some each)
    (notNull : ∀ each, write each ≠ .null) :
    optionalField members name read = some value := by
  cases value with
  | none =>
    have absent : given? members name = none := given?_eq_none_iff.mpr (Or.inl found)
    rw [optionalField, absent]
  | some each =>
    have given : given? members name = some (write each) :=
      given?_eq_some_iff.mpr ⟨found, notNull each⟩
    rw [optionalField, given]
    exact congrArg (Option.map some) (back each rfl)

theorem requiredField_of_get? {members : Members} {name : String} {default : α}
    {read : Json → Option α} {document : Json} {value : α}
    (found : Assoc.get? members name = some document) (back : read document = some value)
    (notNull : document ≠ .null) : requiredField members name default read = some value := by
  have given : given? members name = some document := given?_eq_some_iff.mpr ⟨found, notNull⟩
  rw [requiredField, given]
  exact back

theorem defaultField_of_get? {members : Members} {name : String} {default : α}
    {read : Json → Option α} {document : Json} {value : α}
    (found : Assoc.get? members name = some document) (back : read document = some value) :
    defaultField members name default read = some value := by
  rw [defaultField, found]
  exact back

theorem defaultField_of_absent {members : Members} {name : String} {default : α}
    {read : Json → Option α} (absent : Assoc.get? members name = none) :
    defaultField members name default read = some default := by
  rw [defaultField, absent]

theorem mapM_map_some {β : Type} {read : β → Option α} {write : α → β} {values : List α}
    (back : ∀ each ∈ values, read (write each) = some each) :
    (values.map write).mapM read = some values := by
  induction values with
  | nil => rfl
  | cons value rest ih =>
    rw [List.map_cons, List.mapM_cons, back value List.mem_cons_self,
      ih fun each member => back each (List.mem_cons_of_mem _ member)]
    rfl

theorem listOf_array {read : Json → Option α} {write : α → Json} {values : List α}
    (back : ∀ each ∈ values, read (write each) = some each) :
    listOf read (.array (values.map write)) = some values :=
  mapM_map_some back

theorem texts?_ofTexts (values : List String) : texts? (.ofTexts values) = some values :=
  listOf_array fun _ _ => rfl

theorem labels?_ofLabels (labels : LabelMap) : labels? (.ofLabels labels) = some labels := by
  have entries : (labels.entries.map fun entry => (entry.1, Json.text entry.2)).mapM
      (fun member => member.2.text?.map fun value => (member.1, value)) = some labels.entries :=
    mapM_map_some fun _ _ => rfl
  simp only [labels?, ofLabels, members?, Option.bind_eq_bind, Option.bind_some, entries]
  rw [Option.pure_def, KeyMap.ofList]
  congr
  exact Assoc.ofList_of_ascending labels.ascending

theorem int64?_int (value : Int64) : int64? (.int value.toInt) = some value := by
  have range : isInt64 value.toInt = true := by
    have below := value.toInt_lt
    have above := value.le_toInt
    simp only [isInt64, Bool.and_eq_true, decide_eq_true_eq]
    omega
  simp [int64?, int?, range]

theorem instant?_ofInstant (instant : Instant) : instant? (.ofInstant instant) = some instant := by
  rw [ofInstant, instant?, text?, Option.bind_some, Instant.parse?_text]

theorem isInt32_toInt (value : Int32) : isInt32 value.toInt = true := by
  have below := value.toInt_lt
  have above := value.le_toInt
  simp only [isInt32, Bool.and_eq_true, decide_eq_true_eq]
  omega

theorem int32?_int (value : Int32) : int32? (.int value.toInt) = some value := by
  simp [int32?, int?, isInt32_toInt]

end Json

end Caretaker
