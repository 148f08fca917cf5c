/-!
# Finite maps with ascending keys

A finite map is a list of entries whose keys ascend strictly, so two maps that answer every
look-up alike are equal (`KeyMap.ext_get?`).  The operations are defined on arbitrary lists of
entries (`Assoc`), where the first entry for a key counts; there `get?_insert` and `get?_erase`
hold without any assumption on the order of the list.
-/

namespace Caretaker

namespace Assoc

variable {κ α : Type}

/-- The value of the first entry for `key`. -/
def get? [DecidableEq κ] : List (κ × α) → κ → Option α
  | [], _ => none
  | (k, v) :: rest, key => if k = key then some v else get? rest key

/-- Drop every entry for `key`. -/
def erase [DecidableEq κ] (entries : List (κ × α)) (key : κ) : List (κ × α) :=
  entries.filter (fun entry => entry.1 ≠ key)

/-- Put an entry in front of the first larger key. -/
def place [LT κ] [DecidableLT κ] (key : κ) (value : α) : List (κ × α) → List (κ × α)
  | [] => [(key, value)]
  | (k, v) :: rest =>
    if key < k then (key, value) :: (k, v) :: rest else (k, v) :: place key value rest

/-- Make `value` the only value of `key`. -/
def insert [DecidableEq κ] [LT κ] [DecidableLT κ] (entries : List (κ × α)) (key : κ)
    (value : α) : List (κ × α) :=
  place key value (erase entries key)

/-- The entries in ascending order of their keys; of two entries for one key the last counts. -/
def ofList [DecidableEq κ] [LT κ] [DecidableLT κ] (entries : List (κ × α)) : List (κ × α) :=
  entries.foldl (fun acc entry => insert acc entry.1 entry.2) []

/-- The keys of a list of entries ascend strictly. -/
def Ascending [LT κ] (entries : List (κ × α)) : Prop :=
  (entries.map Prod.fst).Pairwise (· < ·)

theorem ascending_nil [LT κ] : Ascending ([] : List (κ × α)) :=
  List.Pairwise.nil

theorem ascending_cons [LT κ] {entry : κ × α} {rest : List (κ × α)} :
    Ascending (entry :: rest) ↔ (∀ other ∈ rest, entry.1 < other.1) ∧ Ascending rest := by
  simp [Ascending, List.pairwise_cons]

section Lookup

variable [DecidableEq κ]

@[simp]
theorem get?_nil (key : κ) : get? ([] : List (κ × α)) key = none := rfl

theorem get?_cons (k : κ) (v : α) (rest : List (κ × α)) (key : κ) :
    get? ((k, v) :: rest) key = if k = key then some v else get? rest key := rfl

theorem mem_of_get? {entries : List (κ × α)} {key : κ} {value : α}
    (found : get? entries key = some value) : (key, value) ∈ entries := by
  induction entries with
  | nil => cases found
  | cons entry rest ih =>
    obtain ⟨k, v⟩ := entry
    rw [get?_cons] at found
    split at found
    case isTrue same =>
      cases found
      exact same ▸ List.mem_cons_self
    case isFalse => exact List.mem_cons_of_mem _ (ih found)

theorem get?_eq_none {entries : List (κ × α)} {key : κ}
    (absent : ∀ entry ∈ entries, entry.1 ≠ key) : get? entries key = none := by
  induction entries with
  | nil => rfl
  | cons entry rest ih =>
    obtain ⟨k, v⟩ := entry
    rw [get?_cons, if_neg (absent _ List.mem_cons_self)]
    exact ih fun other member => absent other (List.mem_cons_of_mem _ member)

theorem get?_erase (entries : List (κ × α)) (key query : κ) :
    get? (erase entries key) query = if query = key then none else get? entries query := by
  induction entries with
  | nil => simp [erase]
  | cons entry rest ih =>
    obtain ⟨k, v⟩ := entry
    by_cases same : k = key
    · have dropped : erase ((k, v) :: rest) key = erase rest key := by simp [erase, same]
      rw [dropped, ih, get?_cons]
      subst same
      by_cases hit : query = k
      · simp [hit]
      · simp [hit, Ne.symm hit]
    · have kept : erase ((k, v) :: rest) key = (k, v) :: erase rest key := by
        simp [erase, same]
      rw [kept, get?_cons, get?_cons, ih]
      by_cases hit : k = query
      · subst hit
        simp [same]
      · simp [hit]

end Lookup

section Order

variable [DecidableEq κ] [LT κ] [DecidableLT κ]

theorem get?_place {entries : List (κ × α)} {key : κ} (absent : ∀ entry ∈ entries, entry.1 ≠ key)
    (value : α) (query : κ) :
    get? (place key value entries) query =
      if query = key then some value else get? entries query := by
  induction entries with
  | nil => simp [place, get?_cons, eq_comm]
  | cons entry rest ih =>
    obtain ⟨k, v⟩ := entry
    have apart : k ≠ key := absent _ List.mem_cons_self
    have rest_absent : ∀ entry ∈ rest, entry.1 ≠ key :=
      fun other member => absent other (List.mem_cons_of_mem _ member)
    simp only [place]
    split
    · simp [get?_cons, eq_comm]
    · rw [get?_cons, get?_cons, ih rest_absent]
      by_cases hit : k = query
      · subst hit
        simp [apart]
      · simp [hit]

theorem get?_insert (entries : List (κ × α)) (key : κ) (value : α) (query : κ) :
    get? (insert entries key value) query =
      if query = key then some value else get? entries query := by
  have absent : ∀ entry ∈ erase entries key, entry.1 ≠ key := by
    intro entry member
    simpa using (List.mem_filter.mp member).2
  rw [insert, get?_place absent, get?_erase]
  split <;> simp_all

omit [DecidableEq κ] in
theorem mem_place {entries : List (κ × α)} {key : κ} {value : α} {entry : κ × α} :
    entry ∈ place key value entries ↔ entry = (key, value) ∨ entry ∈ entries := by
  induction entries with
  | nil => simp [place]
  | cons head rest ih =>
    obtain ⟨k, v⟩ := head
    simp only [place]
    split
    · simp
    · simp only [List.mem_cons, ih]
      constructor
      · rintro (h | h | h) <;> simp [h]
      · rintro (h | h | h) <;> simp [h]

theorem mem_of_mem_insert {entries : List (κ × α)} {key : κ} {value : α} {entry : κ × α}
    (member : entry ∈ insert entries key value) : entry = (key, value) ∨ entry ∈ entries := by
  rcases mem_place.mp member with same | old
  · exact Or.inl same
  · exact Or.inr (List.mem_filter.mp old).1

omit [DecidableLT κ] in
theorem ascending_erase {entries : List (κ × α)} (sorted : Ascending entries) (key : κ) :
    Ascending (erase entries key) :=
  List.Pairwise.sublist (List.Sublist.map _ List.filter_sublist) sorted

variable [LE κ] [Std.IsLinearOrder κ] [Std.LawfulOrderLT κ]

omit [DecidableEq κ] in
theorem ascending_place {entries : List (κ × α)} {key : κ} (sorted : Ascending entries)
    (absent : ∀ entry ∈ entries, entry.1 ≠ key) (value : α) :
    Ascending (place key value entries) := by
  induction entries with
  | nil => simp [place, Ascending]
  | cons entry rest ih =>
    obtain ⟨k, v⟩ := entry
    obtain ⟨below, rest_sorted⟩ := ascending_cons.mp sorted
    simp only [place]
    split
    case isTrue less =>
      refine ascending_cons.mpr ⟨?_, sorted⟩
      intro other member
      rcases List.mem_cons.mp member with rfl | member
      · exact less
      · exact Std.lt_trans less (below other member)
    case isFalse notLess =>
      have greater : k < key :=
        Std.lt_of_le_of_ne (Std.not_lt.mp notLess) (absent _ List.mem_cons_self)
      refine ascending_cons.mpr ⟨?_, ih rest_sorted fun other member =>
        absent other (List.mem_cons_of_mem _ member)⟩
      intro other member
      rcases mem_place.mp member with rfl | member
      · exact greater
      · exact below other member

theorem ascending_insert {entries : List (κ × α)} (sorted : Ascending entries) (key : κ)
    (value : α) : Ascending (insert entries key value) := by
  refine ascending_place (ascending_erase sorted key) ?_ value
  intro entry member
  simpa using (List.mem_filter.mp member).2

theorem ascending_foldl_insert {β : Type} (steps : List β) (key : β → κ) (value : β → α)
    {start : List (κ × α)} (sorted : Ascending start) :
    Ascending (steps.foldl (fun acc step => insert acc (key step) (value step)) start) := by
  induction steps generalizing start with
  | nil => exact sorted
  | cons step rest ih => exact ih (ascending_insert sorted _ _)

theorem ascending_ofList (entries : List (κ × α)) : Ascending (ofList entries) :=
  ascending_foldl_insert entries Prod.fst Prod.snd ascending_nil

omit [DecidableLT κ] in
/-- Two ascending lists that answer every look-up alike are the same list. -/
theorem eq_of_get?_eq {left right : List (κ × α)} (leftSorted : Ascending left)
    (rightSorted : Ascending right) (alike : ∀ key, get? left key = get? right key) :
    left = right := by
  induction left generalizing right with
  | nil =>
    cases right with
    | nil => rfl
    | cons entry rest =>
      obtain ⟨k, v⟩ := entry
      have found := alike k
      rw [get?_cons, if_pos rfl] at found
      cases found
  | cons entry rest ih =>
    obtain ⟨k, v⟩ := entry
    obtain ⟨below, restSorted⟩ := ascending_cons.mp leftSorted
    cases right with
    | nil =>
      have found := alike k
      rw [get?_cons, if_pos rfl] at found
      cases found
    | cons other rest' =>
      obtain ⟨k', v'⟩ := other
      obtain ⟨below', restSorted'⟩ := ascending_cons.mp rightSorted
      have sameKey : k = k' := by
        rcases Std.lt_trichotomy k k' with less | same | greater
        · have found := alike k
          rw [get?_cons, if_pos rfl, get?_cons, if_neg (Std.ne_of_lt less).symm] at found
          exact absurd (Std.lt_trans less (below' _ (mem_of_get? found.symm))) Std.lt_irrefl
        · exact same
        · have found := alike k'
          rw [get?_cons, if_neg (Std.ne_of_lt greater).symm, get?_cons, if_pos rfl] at found
          exact absurd (Std.lt_trans greater (below _ (mem_of_get? found))) Std.lt_irrefl
      subst sameKey
      have sameValue : v = v' := by
        have found := alike k
        simpa [get?_cons] using found
      subst sameValue
      have tails : ∀ key, get? rest key = get? rest' key := by
        intro key
        by_cases hit : k = key
        · subst hit
          rw [get?_eq_none fun entry member => (Std.ne_of_lt (below entry member)).symm,
            get?_eq_none fun entry member => (Std.ne_of_lt (below' entry member)).symm]
        · have found := alike key
          simpa [get?_cons, hit] using found
      rw [ih restSorted restSorted' tails]

end Order

end Assoc

/-- A finite map: entries whose keys ascend strictly. -/
structure KeyMap (κ α : Type) [LT κ] where
  entries : List (κ × α)
  ascending : Assoc.Ascending entries

/-- A map from text to text: labels, annotations, selectors. -/
abbrev LabelMap := KeyMap String String

namespace KeyMap

variable {κ α β : Type} [LT κ]

/-- The map without entries. -/
def empty : KeyMap κ α := ⟨[], Assoc.ascending_nil⟩

instance : EmptyCollection (KeyMap κ α) := ⟨empty⟩

instance : Inhabited (KeyMap κ α) := ⟨empty⟩

/-- The keys, ascending. -/
def keys (map : KeyMap κ α) : List κ := map.entries.map Prod.fst

/-- The values in the order of their keys. -/
def values (map : KeyMap κ α) : List α := map.entries.map Prod.snd

/-- Whether every entry satisfies `test`. -/
def all (map : KeyMap κ α) (test : κ → α → Bool) : Bool :=
  map.entries.all fun entry => test entry.1 entry.2

/-- The entries that satisfy `test`. -/
def filter (map : KeyMap κ α) (test : κ → α → Bool) : KeyMap κ α where
  entries := map.entries.filter fun entry => test entry.1 entry.2
  ascending := List.Pairwise.sublist (List.Sublist.map _ List.filter_sublist) map.ascending

variable [DecidableEq κ]

/-- The value of `key`. -/
def get? (map : KeyMap κ α) (key : κ) : Option α := Assoc.get? map.entries key

/-- Whether `key` has a value. -/
def contains (map : KeyMap κ α) (key : κ) : Bool := (map.get? key).isSome

variable [DecidableLT κ] [LE κ] [Std.IsLinearOrder κ] [Std.LawfulOrderLT κ]

/-- Give `key` the value `value`. -/
def insert (map : KeyMap κ α) (key : κ) (value : α) : KeyMap κ α :=
  ⟨Assoc.insert map.entries key value, Assoc.ascending_insert map.ascending key value⟩

omit [DecidableLT κ] [LE κ] [Std.IsLinearOrder κ] [Std.LawfulOrderLT κ] in
/-- Take `key` out of the map. -/
def erase (map : KeyMap κ α) (key : κ) : KeyMap κ α :=
  ⟨Assoc.erase map.entries key, Assoc.ascending_erase map.ascending key⟩

/-- The map of a list of entries; of two entries for one key the last counts. -/
def ofList (entries : List (κ × α)) : KeyMap κ α :=
  ⟨Assoc.ofList entries, Assoc.ascending_ofList entries⟩

omit [DecidableLT κ] [LE κ] [Std.IsLinearOrder κ] [Std.LawfulOrderLT κ] in
@[simp]
theorem get?_empty (key : κ) : (∅ : KeyMap κ α).get? key = none := rfl

theorem get?_insert (map : KeyMap κ α) (key : κ) (value : α) (query : κ) :
    (map.insert key value).get? query = if query = key then some value else map.get? query :=
  Assoc.get?_insert map.entries key value query

omit [DecidableLT κ] [LE κ] [Std.IsLinearOrder κ] [Std.LawfulOrderLT κ] in
theorem get?_erase (map : KeyMap κ α) (key query : κ) :
    (map.erase key).get? query = if query = key then none else map.get? query :=
  Assoc.get?_erase map.entries key query

omit [DecidableLT κ] in
/-- Two maps that answer every look-up alike are equal. -/
theorem ext_get? {left right : KeyMap κ α} (alike : ∀ key, left.get? key = right.get? key) :
    left = right := by
  have same := Assoc.eq_of_get?_eq left.ascending right.ascending alike
  cases left
  cases right
  cases same
  rfl

end KeyMap

end Caretaker
