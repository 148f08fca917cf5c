import Caretaker.Json.Path
import Caretaker.Proofs.Entries

/-!
# Writing at a path

`Json.put` gives the place at a path a value, or takes the value out; it works on a document that
may be absent, and it makes the parents that a written value lacks.  Where the path only leads
through absent values, nulls and objects (`Json.Passable`), what was written is found at the path
(`Json.reach_put`), a later write to the same place wins (`Json.put_put`), the objects on the way
change in one member (`Json.reach_put_above`), the missing ones are made with one member
(`Json.reach_put_of_missing`), and an independent path does not see the write
(`Json.reach_put_of_independent`).  If the objects on the way have ascending members as well
(`Json.Clear`), writing back what is there changes nothing (`Json.put_reach`), and writes to
independent paths may be exchanged (`Json.put_comm`).
-/

namespace Caretaker

namespace Json

/-- The value at a path below a document that may be absent. -/
def reach (path : List String) (current : Option Json) : Option Json :=
  current.bind fun document => document.at? path

/-- Give the place at a path a value, or take its value out.  A value gets the parents it lacks;
taking out makes none. -/
def put (value : Option Json) : List String → Option Json → Option Json
  | [], _ => value
  | name :: rest, some (.object members) =>
    some (.object (Assoc.alter members name (put value rest (Assoc.get? members name))))
  | name :: rest, current =>
    match value with
    | none => current
    | some _ => some (.object (Assoc.alter [] name (put value rest none)))

/-- A document that is absent or null; a write makes it an object. -/
def Blank (current : Option Json) : Prop := current = none ∨ current = some .null

/-- Every document that a path leads through is absent, null or an object; what it leads to may be
anything. -/
def Passable (path : List String) (current : Option Json) : Prop :=
  ∀ place, place <+: path → place ≠ path →
    Blank (reach place current) ∨ ∃ members, reach place current = some (.object members)

/-- Every document that a path leads through is absent, null or an object with ascending
members. -/
def Clear : List String → Option Json → Prop
  | [], _ => True
  | name :: rest, current =>
    Blank current ∨ ∃ members, current = some (.object members) ∧ Assoc.Ascending members ∧
      Clear rest (Assoc.get? members name)

/-- Every document that a path leads through is an object with ascending members. -/
def Open : List String → Option Json → Prop
  | [], _ => True
  | name :: rest, current =>
    ∃ members, current = some (.object members) ∧ Assoc.Ascending members ∧
      Open rest (Assoc.get? members name)

/-- Neither path leads to or through the other. -/
def Independent (left right : List String) : Prop := ¬ left <+: right ∧ ¬ right <+: left

instance (left right : List String) : Decidable (Independent left right) :=
  inferInstanceAs (Decidable (_ ∧ _))

theorem Independent.symm {left right : List String} (independent : Independent left right) :
    Independent right left := ⟨independent.2, independent.1⟩

theorem Independent.ne_nil {left right : List String} (independent : Independent left right) :
    left ≠ [] := by
  rintro rfl
  exact independent.1 List.nil_prefix

theorem independent_cons {name other : String} {left right : List String} :
    Independent (name :: left) (other :: right) ↔ name ≠ other ∨ Independent left right := by
  simp only [Independent, List.cons_prefix_cons]
  by_cases same : name = other
  · simp [same]
  · simp [same, Ne.symm same]

@[simp]
theorem reach_nil (current : Option Json) : reach [] current = current := by
  cases current <;> rfl

theorem reach_object (name : String) (rest : List String) (members : Members) :
    reach (name :: rest) (some (.object members)) = reach rest (Assoc.get? members name) := rfl

theorem put_object (value : Option Json) (name : String) (rest : List String)
    (members : Members) :
    put value (name :: rest) (some (.object members)) =
      some (.object (Assoc.alter members name (put value rest (Assoc.get? members name)))) := rfl

@[simp]
theorem put_none_none (path : List String) : put none path none = none := by
  cases path <;> rfl

theorem put_none_of_blank {current : Option Json} (blank : Blank current) (name : String)
    (rest : List String) : put none (name :: rest) current = current := by
  rcases blank with rfl | rfl <;> rfl

theorem put_some_of_blank {current : Option Json} (blank : Blank current) (value : Json)
    (name : String) (rest : List String) :
    put (some value) (name :: rest) current =
      put (some value) (name :: rest) (some (.object [])) := by
  rcases blank with rfl | rfl <;> rfl

theorem put_none_empty (name : String) (rest : List String) :
    put none (name :: rest) (some (.object [])) = some (.object []) := by
  rw [put_object, Assoc.get?_nil, put_none_none]
  rfl

theorem Open.clear {path : List String} {current : Option Json} (isOpen : Open path current) :
    Clear path current := by
  induction path generalizing current with
  | nil => trivial
  | cons name rest ih =>
    obtain ⟨members, same, sorted, below⟩ := isOpen
    exact Or.inr ⟨members, same, sorted, ih below⟩

theorem clear_none (path : List String) : Clear path none := by
  cases path with
  | nil => trivial
  | cons name rest => exact Or.inl (Or.inl rfl)

/-- The empty object is clear. -/
theorem clear_empty (path : List String) : Clear path (some (.object [])) := by
  cases path with
  | nil => trivial
  | cons name rest => exact Or.inr ⟨[], rfl, Assoc.ascending_nil, clear_none rest⟩

/-- Where something is found, the path leads through objects. -/
theorem open_of_reach {path : List String} {current : Option Json} (clear : Clear path current)
    (found : (reach path current).isSome) : Open path current := by
  induction path generalizing current with
  | nil => trivial
  | cons name rest ih =>
    rcases clear with (rfl | rfl) | ⟨members, rfl, sorted, below⟩
    · cases found
    · cases found
    · exact ⟨members, rfl, sorted, ih below found⟩

/-- Nothing is found below a blank document. -/
theorem reach_of_blank {current : Option Json} (blank : Blank current) (name : String)
    (rest : List String) : reach (name :: rest) current = none := by
  rcases blank with rfl | rfl <;> rfl

theorem passable_nil (current : Option Json) : Passable [] current :=
  fun _ above apart => absurd (List.prefix_nil.mp above) apart

/-- A path is passable where it ends below a blank document, or goes on in an object and is
passable there. -/
theorem passable_cons {name : String} {rest : List String} {current : Option Json} :
    Passable (name :: rest) current ↔
      Blank current ∨ ∃ members, current = some (.object members) ∧
        Passable rest (Assoc.get? members name) := by
  constructor
  · intro passable
    have root := passable [] List.nil_prefix (List.cons_ne_nil name rest).symm
    rw [reach_nil] at root
    refine root.imp_right fun ⟨members, same⟩ => ⟨members, same, fun place above apart => ?_⟩
    subst same
    refine passable (name :: place) (List.cons_prefix_cons.mpr ⟨rfl, above⟩) fun same => ?_
    exact apart (List.cons.inj same).2
  · intro passable place above apart
    cases place with
    | nil =>
      rw [reach_nil]
      exact passable.imp_right fun ⟨members, same, _⟩ => ⟨members, same⟩
    | cons key place =>
      obtain ⟨rfl, tailAbove⟩ := List.cons_prefix_cons.mp above
      rcases passable with blank | ⟨members, rfl, below⟩
      · exact Or.inl (Or.inl (reach_of_blank blank key place))
      · exact below place tailAbove fun same => apart (same ▸ rfl)

theorem passable_none (path : List String) : Passable path none := by
  cases path with
  | nil => exact passable_nil none
  | cons name rest => exact passable_cons.mpr (Or.inl (Or.inl rfl))

/-- What lies below an object on a passable path is passable. -/
theorem Passable.below {name : String} {rest : List String} {members : Members}
    (passable : Passable (name :: rest) (some (.object members))) :
    Passable rest (Assoc.get? members name) := by
  rcases passable_cons.mp passable with (blank | blank) | ⟨_, same, below⟩
  · cases blank
  · cases blank
  · cases same
    exact below

theorem Clear.passable {path : List String} {current : Option Json} (clear : Clear path current) :
    Passable path current := by
  induction path generalizing current with
  | nil => exact passable_nil current
  | cons name rest ih =>
    refine passable_cons.mpr (clear.imp_right fun ⟨members, same, _, below⟩ => ?_)
    exact ⟨members, same, ih below⟩

/-- What was written is found. -/
theorem reach_put {path : List String} {current : Option Json} (passable : Passable path current)
    (value : Option Json) : reach path (put value path current) = value := by
  induction path generalizing current with
  | nil => exact reach_nil value
  | cons name rest ih =>
    rcases passable_cons.mp passable with blank | ⟨members, rfl, below⟩
    · cases value with
      | none => rw [put_none_of_blank blank, reach_of_blank blank]
      | some value =>
        rw [put_some_of_blank blank, put_object, reach_object, Assoc.get?_alter, if_pos rfl]
        exact ih (passable_none rest)
    · rw [put_object, reach_object, Assoc.get?_alter, if_pos rfl]
      exact ih below

/-- A write leaves its own path passable. -/
theorem Passable.put {path : List String} {current : Option Json}
    (passable : Passable path current) (value : Option Json) :
    Passable path (put value path current) := by
  induction path generalizing current with
  | nil => exact passable_nil _
  | cons name rest ih =>
    have below (members : Members) (inner : Passable rest (Assoc.get? members name)) :
        Passable (name :: rest) (Json.put value (name :: rest) (some (.object members))) := by
      refine passable_cons.mpr (Or.inr ⟨_, rfl, ?_⟩)
      rw [Assoc.get?_alter, if_pos rfl]
      exact ih inner
    rcases passable_cons.mp passable with blank | ⟨members, rfl, inner⟩
    · cases value with
      | none =>
        rw [put_none_of_blank blank]
        exact passable
      | some value =>
        rw [put_some_of_blank blank]
        exact below [] (passable_none rest)
    · exact below members inner

/-- In an object that the path leads through, a write changes the next member and no other. -/
theorem reach_put_above {place rest : List String} {name : String} {current : Option Json}
    {members : Members} (passable : Passable (place ++ name :: rest) current)
    (found : reach place current = some (.object members)) (value : Option Json) :
    reach place (put value (place ++ name :: rest) current) =
      some (.object (Assoc.alter members name (put value rest (Assoc.get? members name)))) := by
  induction place generalizing current with
  | nil =>
    rw [reach_nil] at found
    rw [found, reach_nil]
    rfl
  | cons key place ih =>
    rcases passable_cons.mp passable with blank | ⟨outer, rfl, below⟩
    · rw [reach_of_blank blank] at found
      cases found
    · rw [List.cons_append, put_object, reach_object, Assoc.get?_alter, if_pos rfl]
      exact ih below found

/-- A missing object on the way is made with the next member and no other. -/
theorem reach_put_of_missing {place rest : List String} {name : String} {current : Option Json}
    (passable : Passable (place ++ name :: rest) current) (missing : Blank (reach place current))
    (value : Json) :
    ∃ child, reach place (put (some value) (place ++ name :: rest) current) =
      some (.object [(name, child)]) := by
  induction place generalizing current with
  | nil =>
    obtain ⟨child, made⟩ : ∃ child, put (some value) rest none = some child := by
      cases rest <;> exact ⟨_, rfl⟩
    rw [reach_nil] at missing
    rw [List.nil_append, reach_nil, put_some_of_blank missing, put_object, Assoc.get?_nil, made]
    exact ⟨child, rfl⟩
  | cons key place ih =>
    rcases passable_cons.mp passable with blank | ⟨members, rfl, below⟩
    · rw [List.cons_append, put_some_of_blank blank, put_object, reach_object, Assoc.get?_alter,
        if_pos rfl]
      exact ih (passable_none _) (Or.inl rfl)
    · rw [List.cons_append, put_object, reach_object, Assoc.get?_alter, if_pos rfl]
      exact ih below missing

/-- Writing back what is there changes nothing. -/
theorem put_reach {path : List String} {current : Option Json} (clear : Clear path current) :
    put (reach path current) path current = current := by
  induction path generalizing current with
  | nil => exact reach_nil current
  | cons name rest ih =>
    rcases clear with (rfl | rfl) | ⟨members, rfl, sorted, below⟩
    · rfl
    · rfl
    · rw [reach_object, put_object, ih below, Assoc.alter_get? sorted]

/-- A write leaves a path as clear as it was. -/
theorem Clear.put {path other : List String} {current : Option Json}
    (clear : Clear path current) (otherClear : Clear other current)
    (apart : path = other ∨ Independent path other) (value : Option Json) :
    Clear path (put value other current) := by
  induction path generalizing other current with
  | nil => trivial
  | cons name rest ih =>
    cases other with
    | nil =>
      rcases apart with same | independent
      · cases same
      · exact absurd List.nil_prefix independent.2
    | cons key tail =>
      have below (members : Members) (sorted : Assoc.Ascending members)
          (clear : Clear rest (Assoc.get? members name))
          (otherClear : Clear tail (Assoc.get? members key)) :
          Clear (name :: rest) (some (.object
            (Assoc.alter members key (Json.put value tail (Assoc.get? members key))))) := by
        refine Or.inr ⟨_, rfl, Assoc.ascending_alter sorted _ _, ?_⟩
        rw [Assoc.get?_alter]
        split
        case isTrue same =>
          subst same
          refine ih clear otherClear ?_
          rcases apart with same | independent
          · exact Or.inl (List.cons.inj same).2
          · exact Or.inr ((independent_cons.mp independent).resolve_left fun apart => apart rfl)
        case isFalse => exact clear
      rcases otherClear with blank | ⟨members, rfl, sorted, otherBelow⟩
      · cases value with
        | none =>
          rw [put_none_of_blank blank]
          exact Or.inl blank
        | some value =>
          rw [put_some_of_blank blank]
          exact below [] Assoc.ascending_nil (clear_none _) (clear_none _)
      · rcases clear with (clear | clear) | ⟨_, same, _, clear⟩
        · cases clear
        · cases clear
        · cases same
          exact below members sorted clear otherBelow

/-- A write leaves an independent path as open as it was. -/
theorem Open.put {path other : List String} {current : Option Json}
    (isOpen : Open path current) (independent : Independent path other) (value : Option Json) :
    Open path (put value other current) := by
  induction path generalizing other current with
  | nil => trivial
  | cons name rest ih =>
    obtain ⟨members, rfl, sorted, below⟩ := isOpen
    cases other with
    | nil => exact absurd List.nil_prefix independent.2
    | cons key tail =>
      refine ⟨_, rfl, Assoc.ascending_alter sorted _ _, ?_⟩
      rw [Assoc.get?_alter]
      split
      case isTrue same =>
        subst same
        exact ih below ((independent_cons.mp independent).resolve_left fun apart => apart rfl)
      case isFalse => exact below

/-- A write is not seen at an independent path. -/
theorem reach_put_of_independent {path other : List String} {current : Option Json}
    (passable : Passable path current) (independent : Independent path other)
    (value : Option Json) :
    reach other (put value path current) = reach other current := by
  induction path generalizing other current with
  | nil => exact absurd rfl independent.ne_nil
  | cons name rest ih =>
    cases other with
    | nil => exact absurd List.nil_prefix independent.2
    | cons key tail =>
      have below (members : Members) (passable : Passable rest (Assoc.get? members name)) :
          reach (key :: tail) (some (.object
            (Assoc.alter members name (put value rest (Assoc.get? members name))))) =
            reach tail (Assoc.get? members key) := by
        rw [reach_object, Assoc.get?_alter]
        split
        case isTrue same =>
          subst same
          exact ih passable ((independent_cons.mp independent).resolve_left fun apart => apart rfl)
        case isFalse => rfl
      rcases passable_cons.mp passable with blank | ⟨members, rfl, inner⟩
      · cases value with
        | none => rw [put_none_of_blank blank]
        | some value =>
          rw [put_some_of_blank blank]
          exact (below [] (passable_none _)).trans (reach_of_blank blank key tail).symm
      · exact below members inner

/-- A later write to the same place wins, unless it takes out a value whose parents the earlier one
made. -/
theorem put_put {path : List String} {current : Option Json} (passable : Passable path current)
    {first second : Option Json}
    (parents : first.isSome → second.isSome ∨ Open path current) :
    put second path (put first path current) = put second path current := by
  induction path generalizing current with
  | nil => rfl
  | cons name rest ih =>
    have below (members : Members) (passable : Passable rest (Assoc.get? members name))
        (parents : first.isSome → second.isSome ∨ Open rest (Assoc.get? members name)) :
        put second (name :: rest) (put first (name :: rest) (some (.object members))) =
          put second (name :: rest) (some (.object members)) := by
      rw [put_object, put_object, put_object, Assoc.get?_alter, if_pos rfl,
        Assoc.alter_alter, ih passable parents]
    rcases passable_cons.mp passable with blank | ⟨members, rfl, inner⟩
    · cases first with
      | none => rw [put_none_of_blank blank]
      | some value =>
        obtain ⟨last, rfl⟩ : ∃ last, second = some last := by
          rcases parents rfl with isSome | ⟨_, rfl, _⟩
          · exact Option.isSome_iff_exists.mp isSome
          · rcases blank with same | same <;> cases same
        rw [put_some_of_blank blank, put_some_of_blank blank]
        exact below [] (passable_none _) fun _ => Or.inl rfl
    · apply below members inner
      intro isSome
      rcases parents isSome with last | ⟨_, same, _, isOpen⟩
      · exact Or.inl last
      · cases same
        exact Or.inr isOpen

/-- Writes to independent paths may be exchanged. -/
theorem put_comm {path other : List String} {current : Option Json} (clear : Clear path current)
    (otherClear : Clear other current) (independent : Independent path other)
    (first second : Option Json) :
    put second other (put first path current) = put first path (put second other current) := by
  induction path generalizing other current with
  | nil => exact absurd rfl independent.ne_nil
  | cons name rest ih =>
    cases other with
    | nil => exact absurd rfl independent.symm.ne_nil
    | cons key tail =>
      -- Both writes act on the members of one object.
      have both (members : Members) (sorted : Assoc.Ascending members)
          (clear : Clear rest (Assoc.get? members name))
          (otherClear : Clear tail (Assoc.get? members key)) :
          put second (key :: tail) (put first (name :: rest) (some (.object members))) =
            put first (name :: rest) (put second (key :: tail) (some (.object members))) := by
        simp only [put_object, Assoc.get?_alter]
        by_cases same : name = key
        · subst same
          have apart := (independent_cons.mp independent).resolve_left fun apart => apart rfl
          simp only [if_true, Assoc.alter_alter, ih clear otherClear apart]
        · simp only [Ne.symm same, same, if_false, Assoc.alter_comm sorted same]
      rcases clear with blank | ⟨members, rfl, sorted, clear⟩
      · -- A blank document counts as an empty object once something is written.
        have empty := both [] Assoc.ascending_nil (clear_none _) (clear_none _)
        cases first with
        | none =>
          cases second with
          | none => rw [put_none_of_blank blank, put_none_of_blank blank, put_none_of_blank blank]
          | some second =>
            rw [put_none_empty] at empty
            rw [put_none_of_blank blank, put_some_of_blank blank]
            exact empty
        | some first =>
          cases second with
          | none =>
            rw [put_none_empty] at empty
            rw [put_none_of_blank blank, put_some_of_blank blank]
            exact empty
          | some second => rw [put_some_of_blank blank, put_some_of_blank blank, empty]
      · rcases otherClear with (otherClear | otherClear) | ⟨_, same, _, otherClear⟩
        · cases otherClear
        · cases otherClear
        · cases same
          exact both members sorted clear otherClear

end Json

end Caretaker
