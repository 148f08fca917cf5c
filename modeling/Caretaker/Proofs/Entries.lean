import Caretaker.KeyMap

/-!
# Look-ups in lists of entries

Lists of entries with ascending keys are determined by their look-ups (`Assoc.eq_of_get?_eq`), so
every law of writing (`Assoc.alter`) on such lists follows from the look-ups of both sides.
A list whose keys are distinct answers like its sorted form (`Assoc.get?_ofList`).
-/

namespace Caretaker

namespace Assoc

variable {κ α β : Type}

/-- No key has two entries. -/
def Distinct (entries : List (κ × α)) : Prop := (entries.map Prod.fst).Nodup

theorem distinct_cons {entry : κ × α} {rest : List (κ × α)} :
    Distinct (entry :: rest) ↔ (∀ other ∈ rest, other.1 ≠ entry.1) ∧ Distinct rest := by
  simp only [Distinct, List.map_cons, List.nodup_cons, List.mem_map, not_exists, not_and]

instance [DecidableEq κ] (entries : List (κ × α)) : Decidable (Distinct entries) :=
  inferInstanceAs (Decidable (entries.map Prod.fst).Nodup)

section Lookup

variable [DecidableEq κ]

@[simp]
theorem get?_cons_self (key : κ) (value : α) (rest : List (κ × α)) :
    get? ((key, value) :: rest) key = some value := if_pos rfl

theorem get?_cons_of_ne {k key : κ} (apart : k ≠ key) (value : α) (rest : List (κ × α)) :
    get? ((k, value) :: rest) key = get? rest key := if_neg apart

theorem get?_of_mem {entries : List (κ × α)} (distinct : Distinct entries) {key : κ} {value : α}
    (member : (key, value) ∈ entries) : get? entries key = some value := by
  induction entries with
  | nil => cases member
  | cons entry rest ih =>
    obtain ⟨apart, distinct⟩ := distinct_cons.mp distinct
    rcases List.mem_cons.mp member with rfl | later
    · exact get?_cons_self _ _ _
    · rw [get?_cons_of_ne (apart _ later).symm, ih distinct later]

/-- The fields of a record that have a value, looked up by name. -/
theorem get?_filterMap {fields : List (κ × Option α)} (distinct : Distinct fields) (key : κ) :
    get? (fields.filterMap fun field => field.2.map fun value => (field.1, value)) key =
      (get? fields key).join := by
  induction fields with
  | nil => rfl
  | cons field rest ih =>
    obtain ⟨k, v⟩ := field
    obtain ⟨apart, distinct⟩ := distinct_cons.mp distinct
    have tail := ih distinct
    cases v with
    | none =>
      simp only [List.filterMap_cons, Option.map_none, tail]
      by_cases same : k = key
      · subst same
        rw [get?_cons_self, get?_eq_none apart]
        rfl
      · rw [get?_cons_of_ne same]
    | some v =>
      simp only [List.filterMap_cons, Option.map_some, get?_cons, tail]
      split <;> rfl

theorem isSome_get?_iff {entries : List (κ × α)} {key : κ} :
    (get? entries key).isSome ↔ key ∈ entries.map Prod.fst := by
  induction entries with
  | nil => simp
  | cons entry rest ih =>
    obtain ⟨k, v⟩ := entry
    rw [get?_cons, List.map_cons, List.mem_cons]
    by_cases same : k = key
    · simp [same]
    · simp only [same, if_false, ih, Ne.symm same, false_or]

end Lookup

section Order

variable [DecidableEq κ] [LT κ] [DecidableLT κ] [LE κ] [Std.IsLinearOrder κ]
  [Std.LawfulOrderLT κ]

omit [DecidableLT κ] [DecidableEq κ] [Std.IsLinearOrder κ] in
theorem Ascending.distinct {entries : List (κ × α)} (sorted : Ascending entries) :
    Distinct entries :=
  List.Pairwise.imp (fun less => Std.ne_of_lt less) sorted

omit [DecidableLT κ] [Std.IsLinearOrder κ] in
/-- A key of filtered entries has its value if that passes the test. -/
theorem get?_filter {entries : List (κ × α)} (sorted : Ascending entries) (test : κ → α → Bool)
    (key : κ) :
    get? (entries.filter fun entry => test entry.1 entry.2) key =
      (get? entries key).filter (test key) := by
  induction entries with
  | nil => rfl
  | cons entry rest ih =>
    obtain ⟨k, value⟩ := entry
    obtain ⟨apart, distinct⟩ := distinct_cons.mp sorted.distinct
    have tail := ih (ascending_cons.mp sorted).2
    rw [List.filter_cons]
    by_cases same : k = key
    · subst same
      rw [get?_eq_none apart] at tail
      rw [get?_cons_self, Option.filter_some]
      split
      · exact get?_cons_self _ _ _
      · exact tail
    · rw [get?_cons_of_ne same, ← tail]
      split
      · exact get?_cons_of_ne same _ _
      · rfl

omit [LE κ] [Std.IsLinearOrder κ] [Std.LawfulOrderLT κ] in
theorem get?_foldl_insert {entries : List (κ × α)} (distinct : Distinct entries)
    (start : List (κ × α)) (key : κ) :
    get? (entries.foldl (fun acc entry => insert acc entry.1 entry.2) start) key =
      (get? entries key).or (get? start key) := by
  induction entries generalizing start with
  | nil => rfl
  | cons entry rest ih =>
    obtain ⟨k, v⟩ := entry
    obtain ⟨apart, distinct⟩ := distinct_cons.mp distinct
    rw [List.foldl_cons, ih distinct, get?_insert, get?_cons]
    by_cases same : k = key
    · subst same
      rw [get?_eq_none apart, if_pos rfl, if_pos rfl]
      rfl
    · rw [if_neg (Ne.symm same), if_neg same]

omit [LE κ] [Std.IsLinearOrder κ] [Std.LawfulOrderLT κ] in
/-- Sorting distinct entries changes no look-up. -/
theorem get?_ofList {entries : List (κ × α)} (distinct : Distinct entries) (key : κ) :
    get? (ofList entries) key = get? entries key := by
  rw [ofList, get?_foldl_insert distinct, get?_nil, Option.or_none]

theorem ofList_of_ascending {entries : List (κ × α)} (sorted : Ascending entries) :
    ofList entries = entries :=
  eq_of_get?_eq (ascending_ofList entries) sorted (get?_ofList sorted.distinct)

omit [LE κ] [Std.IsLinearOrder κ] [Std.LawfulOrderLT κ] in
/-- Give a key a value, or take it out. -/
def alter (entries : List (κ × α)) (key : κ) : Option α → List (κ × α)
  | some value => insert entries key value
  | none => erase entries key

omit [LE κ] [Std.IsLinearOrder κ] [Std.LawfulOrderLT κ] in
theorem get?_alter (entries : List (κ × α)) (key : κ) (value : Option α) (query : κ) :
    get? (alter entries key value) query = if query = key then value else get? entries query := by
  cases value with
  | none => exact get?_erase entries key query
  | some value => exact get?_insert entries key value query

theorem ascending_alter {entries : List (κ × α)} (sorted : Ascending entries) (key : κ)
    (value : Option α) : Ascending (alter entries key value) := by
  cases value with
  | none => exact ascending_erase sorted key
  | some value => exact ascending_insert sorted key value

/-- Writing back what is there changes nothing. -/
theorem alter_get? {entries : List (κ × α)} (sorted : Ascending entries) (key : κ) :
    alter entries key (get? entries key) = entries := by
  apply eq_of_get?_eq (ascending_alter sorted _ _) sorted
  intro query
  rw [get?_alter]
  split
  case isTrue same => rw [same]
  case isFalse => rfl

omit [LE κ] [Std.IsLinearOrder κ] [Std.LawfulOrderLT κ] in
/-- Taking a key out again leaves the entries that its own was placed among. -/
theorem erase_place {entries : List (κ × α)} {key : κ}
    (absent : ∀ entry ∈ entries, entry.1 ≠ key) (value : α) :
    erase (place key value entries) key = entries := by
  induction entries with
  | nil => simp [place, erase]
  | cons entry rest ih =>
    obtain ⟨k, v⟩ := entry
    have apart : k ≠ key := absent _ List.mem_cons_self
    have restAbsent : ∀ other ∈ rest, other.1 ≠ key :=
      fun other member => absent other (List.mem_cons_of_mem _ member)
    have restSame : erase rest key = rest :=
      List.filter_eq_self.mpr fun other member => decide_eq_true (restAbsent other member)
    rw [place]
    split
    case isTrue => simpa [erase, apart] using restSame
    case isFalse => simpa [erase, apart] using ih restAbsent

omit [LE κ] [Std.IsLinearOrder κ] [Std.LawfulOrderLT κ] in
theorem erase_insert (entries : List (κ × α)) (key : κ) (value : α) :
    erase (insert entries key value) key = erase entries key :=
  erase_place (fun _ member => of_decide_eq_true (List.mem_filter.mp member).2) value

omit [LE κ] [Std.IsLinearOrder κ] [Std.LawfulOrderLT κ] in
theorem alter_alter (entries : List (κ × α)) (key : κ) (first second : Option α) :
    alter (alter entries key first) key second = alter entries key second := by
  have erased : erase (alter entries key first) key = erase entries key := by
    cases first with
    | none => exact List.filter_filter.trans (by simp [erase])
    | some value => exact erase_insert entries key value
  cases second with
  | none => exact erased
  | some value => exact congrArg (place key value) erased

theorem alter_comm {entries : List (κ × α)} (sorted : Ascending entries) {first second : κ}
    (apart : first ≠ second) (left right : Option α) :
    alter (alter entries first left) second right =
      alter (alter entries second right) first left := by
  refine eq_of_get?_eq (ascending_alter (ascending_alter sorted _ _) _ _)
    (ascending_alter (ascending_alter sorted _ _) _ _) fun query => ?_
  simp only [get?_alter]
  by_cases same : query = first
  · subst same
    simp [apart]
  · simp [same]

end Order

end Assoc

end Caretaker
