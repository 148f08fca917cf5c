import Caretaker.Proofs.Json.Put
import Caretaker.Proofs.Shape.Normal

/-!
# Writing into documents of a shape

`Shape.at?` follows a path through the fields of records.  Along such a path a normal form is clear
(`Shape.clear_of_normal`), and what it leads to is a normal form (`Shape.normal_of_reach`).  Writing
a value that the shape at the path accepts leaves a document that the whole shape accepts
(`Shape.acceptsMember_put`), and fitting a document before a write changes nothing about the fitted
result (`Shape.fitMember_put`).
-/

namespace Caretaker

namespace Shape

/-- The shape at a path through fields of records. -/
def at? : Shape → List String → Option Shape
  | shape, [] => some shape
  | .record fields, name :: rest => (Assoc.get? fields name).bind fun field => field.2.at? rest
  | _, _ :: _ => none

/-- The normal form of the member of a field, which may be absent or null. -/
def fitMember (field : Presence × Shape) (current : Option Json) : Option Json :=
  fitField field (current.filter fun value => value ≠ .null)

/-- Whether the member of a field has the right form; it may be absent or null. -/
def AcceptsMember (shape : Shape) : Option Json → Prop
  | none => True
  | some .null => shape.admitsNull = true
  | some value => shape.accepts value = true

theorem exists_field_of_at? {shape leaf : Shape} {name : String} {rest : List String}
    (found : shape.at? (name :: rest) = some leaf) :
    ∃ fields field, shape = .record fields ∧ Assoc.get? fields name = some field ∧
      field.2.at? rest = some leaf := by
  cases shape with
  | record fields =>
    rw [at?, Option.bind_eq_some_iff] at found
    obtain ⟨field, named, below⟩ := found
    exact ⟨fields, field, rfl, named, below⟩
  | _ => cases found

theorem isOrdered_of_at? {shape leaf : Shape} {path : List String}
    (ordered : shape.isOrdered = true) (found : shape.at? path = some leaf) :
    leaf.isOrdered = true := by
  induction path generalizing shape with
  | nil =>
    cases found
    exact ordered
  | cons name rest ih =>
    obtain ⟨fields, field, rfl, named, below⟩ := exists_field_of_at? found
    rw [isOrdered] at ordered
    exact ih (isOrdered_of_get? ordered named) below

/-- A normal form is clear along every path through fields. -/
theorem clear_of_normal {shape leaf : Shape} {presence : Presence} {path : List String}
    {current : Option Json} (ordered : shape.isOrdered = true) (found : shape.at? path = some leaf)
    (normal : NormalField (some (presence, shape)) current) : Json.Clear path current := by
  induction path generalizing shape presence current with
  | nil => trivial
  | cons name rest ih =>
    obtain ⟨fields, field, rfl, named, below⟩ := exists_field_of_at? found
    cases current with
    | none => exact Json.clear_none _
    | some document =>
      obtain ⟨members, rfl, membersNormal⟩ := normal.2
      rw [isOrdered] at ordered
      have sorted := ascending_of_areOrdered ordered
      have suits := membersNormal.field sorted name
      rw [named] at suits
      exact Or.inr ⟨members, rfl, membersNormal.ascending sorted,
        ih (isOrdered_of_get? ordered named) below suits⟩

/-- What a path through fields leads to in a normal form is a normal form. -/
theorem normal_of_reach {shape leaf : Shape} {presence : Presence} {path : List String}
    {current : Option Json} {value : Json} (ordered : shape.isOrdered = true)
    (found : shape.at? path = some leaf) (normal : NormalField (some (presence, shape)) current)
    (there : Json.reach path current = some value) : leaf.Normal value := by
  induction path generalizing shape presence current with
  | nil =>
    cases found
    rw [Json.reach_nil] at there
    subst there
    exact normal.2
  | cons name rest ih =>
    obtain ⟨fields, field, rfl, named, below⟩ := exists_field_of_at? found
    cases current with
    | none => cases there
    | some document =>
      obtain ⟨members, rfl, membersNormal⟩ := normal.2
      rw [isOrdered] at ordered
      have suits := membersNormal.field (ascending_of_areOrdered ordered) name
      rw [named] at suits
      exact ih (isOrdered_of_get? ordered named) below suits there

theorem acceptsMembers_iff {fields : Fields} (distinct : Assoc.Distinct fields)
    {members : Json.Members} :
    acceptsMembers fields members = true ↔
      ∀ name field, Assoc.get? fields name = some field →
        AcceptsMember field.2 (Assoc.get? members name) := by
  induction fields with
  | nil =>
    refine ⟨fun _ _ _ found => ?_, fun _ => rfl⟩
    cases found
  | cons field rest ih =>
    obtain ⟨k, presence, shape⟩ := field
    obtain ⟨apart, distinct⟩ := Assoc.distinct_cons.mp distinct
    rw [acceptsMembers, Bool.and_eq_true]
    refine (and_congr (c := AcceptsMember shape (Assoc.get? members k)) ?head
      (ih distinct)).trans ?_
    case head =>
      cases Assoc.get? members k with
      | none => exact iff_of_true rfl trivial
      | some value => cases value <;> rfl
    constructor
    · rintro ⟨first, others⟩ name field found
      rw [Assoc.get?_cons] at found
      split at found
      case isTrue same =>
        cases found
        exact same ▸ first
      case isFalse => exact others name field found
    · intro all
      refine ⟨all k _ (Assoc.get?_cons_self _ _ _), fun name field found => all name field ?_⟩
      have different : k ≠ name := (apart _ (Assoc.mem_of_get? found)).symm
      rw [Assoc.get?_cons_of_ne different, found]

theorem acceptsMember_none (shape : Shape) : AcceptsMember shape none := trivial

/-- The member of a field has the right form if it is in normal form. -/
theorem acceptsMember_of_normal {shape : Shape} (ordered : shape.isOrdered = true)
    {current : Option Json} (normal : ∀ value, current = some value → shape.Normal value) :
    AcceptsMember shape current := by
  cases current with
  | none => exact acceptsMember_none shape
  | some value =>
    cases value with
    | null => exact admitsNull_of_normal (normal _ rfl)
    | _ => exact accepts_of_normal shape ordered _ (normal _ rfl)

theorem acceptsMember_object {fields : Fields} {members : Json.Members} :
    AcceptsMember (.record fields) (some (.object members)) ↔
      acceptsMembers fields members = true :=
  Iff.rfl

/-- A write of an accepted value leaves an accepted document. -/
theorem acceptsMember_put {shape leaf : Shape} {path : List String} {current value : Option Json}
    (ordered : shape.isOrdered = true) (found : shape.at? path = some leaf)
    (clear : Json.Clear path current) (accepted : AcceptsMember shape current)
    (valueAccepted : AcceptsMember leaf value) :
    AcceptsMember shape (Json.put value path current) := by
  induction path generalizing shape current with
  | nil =>
    cases found
    exact valueAccepted
  | cons name rest ih =>
    obtain ⟨fields, field, rfl, named, below⟩ := exists_field_of_at? found
    rw [isOrdered] at ordered
    have distinct := (ascending_of_areOrdered ordered).distinct
    have object (members : Json.Members) (clear : Json.Clear rest (Assoc.get? members name))
        (accepted : acceptsMembers fields members = true) :
        AcceptsMember (.record fields)
          (Json.put value (name :: rest) (some (.object members))) := by
      have each := (acceptsMembers_iff distinct).mp accepted
      rw [Json.put_object, acceptsMember_object, acceptsMembers_iff distinct]
      intro query other queried
      rw [Assoc.get?_alter]
      split
      case isTrue same =>
        subst same
        rw [named] at queried
        cases queried
        exact ih (isOrdered_of_get? ordered named) below clear (each _ _ named)
      case isFalse => exact each query other queried
    rcases clear with blank | ⟨members, rfl, -, clear⟩
    · cases value with
      | none => rwa [Json.put_none_of_blank blank]
      | some value =>
        rw [Json.put_some_of_blank blank]
        refine object [] (Json.clear_none rest) ((acceptsMembers_iff distinct).mpr ?_)
        exact fun _ _ _ => acceptsMember_none _
    · exact object members clear (acceptsMember_object.mp accepted)

theorem get?_fitMembers_eq {fields : Fields} (sorted : Assoc.Ascending fields)
    (members : Json.Members) (name : String) :
    Assoc.get? (fitMembers fields members) name =
      (Assoc.get? fields name).bind fun field => fitMember field (Assoc.get? members name) := by
  simp only [get?_fitMembers sorted, fitMember, Json.given?_eq]

/-- Fitted members agree if the members of every field do. -/
theorem fitMembers_ext {fields : Fields} (sorted : Assoc.Ascending fields)
    {left right : Json.Members}
    (alike : ∀ name field, Assoc.get? fields name = some field →
      fitMember field (Assoc.get? left name) = fitMember field (Assoc.get? right name)) :
    fitMembers fields left = fitMembers fields right := by
  refine Assoc.eq_of_get?_eq (ascending_fitMembers sorted left) (ascending_fitMembers sorted right)
    fun name => ?_
  rw [get?_fitMembers_eq sorted, get?_fitMembers_eq sorted]
  cases found : Assoc.get? fields name with
  | none => rfl
  | some field => exact alike name field found

theorem fitMember_some {field : Presence × Shape} {value : Json} (notNull : value ≠ .null) :
    fitMember field (some value) = some (field.2.fit value) := by
  rw [fitMember, Option.filter_some, if_pos (by simpa using notNull), fitField]

theorem fitMember_of_blank {field : Presence × Shape} {current : Option Json}
    (blank : Json.Blank current) : fitMember field current = fitField field none := by
  rcases blank with rfl | rfl <;> rfl

theorem fitMember_fitMember {field : Presence × Shape} (ordered : field.2.isOrdered = true)
    (current : Option Json) : fitMember field (fitMember field current) = fitMember field current := by
  obtain ⟨presence, shape⟩ := field
  have settled (value : Json) :
      fitMember (.required, shape) (some (shape.fit value)) = some (shape.fit value) := by
    by_cases isNull : shape.fit value = .null
    · have own := fit_fit shape ordered value
      rw [isNull] at own ⊢
      rw [fitMember_of_blank (Or.inr rfl)]
      exact congrArg some own
    · rw [fitMember_some isNull]
      exact congrArg some (fit_fit shape ordered value)
  have blankCase (blank : Json.Blank current) :
      fitMember (presence, shape) (fitMember (presence, shape) current) =
        fitMember (presence, shape) current := by
    rw [fitMember_of_blank blank]
    cases presence with
    | optional => rfl
    | required => exact settled .null
  cases current with
  | none => exact blankCase (Or.inl rfl)
  | some value =>
    by_cases isNull : value = .null
    · exact blankCase (Or.inr (congrArg some isNull))
    · rw [fitMember_some isNull, fitMember_some (fit_ne_null shape isNull)]
      exact congrArg some (fit_fit shape ordered value)

theorem fitMember_object (presence : Presence) (fields : Fields) (members : Json.Members) :
    fitMember (presence, .record fields) (some (.object members)) =
      some (.object (fitMembers fields members)) :=
  fitMember_some nofun

/-- Fitting a document before a write changes nothing about the fitted result. -/
theorem fitMember_put {shape leaf : Shape} {presence : Presence} {path : List String}
    {current : Option Json} (ordered : shape.isOrdered = true) (found : shape.at? path = some leaf)
    (clear : Json.Clear path current) (value : Option Json) :
    fitMember (presence, shape) (Json.put value path (fitMember (presence, shape) current)) =
      fitMember (presence, shape) (Json.put value path current) := by
  induction path generalizing shape presence current with
  | nil => rfl
  | cons name rest ih =>
    obtain ⟨fields, field, rfl, named, below⟩ := exists_field_of_at? found
    rw [isOrdered] at ordered
    have sorted := ascending_of_areOrdered ordered
    have object (presence : Presence) (members : Json.Members)
        (clear : Json.Clear rest (Assoc.get? members name)) :
        fitMember (presence, .record fields) (Json.put value (name :: rest)
            (fitMember (presence, .record fields) (some (.object members)))) =
          fitMember (presence, .record fields)
            (Json.put value (name :: rest) (some (.object members))) := by
      rw [fitMember_object, Json.put_object, Json.put_object, fitMember_object, fitMember_object]
      refine congrArg (some ∘ Json.object) (fitMembers_ext sorted fun query other queried => ?_)
      have otherOrdered := isOrdered_of_get? ordered queried
      rw [Assoc.get?_alter, Assoc.get?_alter]
      split
      case isTrue same =>
        subst same
        rw [named] at queried
        cases queried
        rw [get?_fitMembers_eq sorted, named, Option.bind_some]
        exact ih otherOrdered below clear
      case isFalse =>
        rw [get?_fitMembers_eq sorted, queried, Option.bind_some, fitMember_fitMember otherOrdered]
    rcases clear with blank | ⟨members, rfl, -, clear⟩
    · have empty := object presence [] (Json.clear_none rest)
      rw [fitMember_of_blank blank]
      cases presence with
      | optional =>
        cases value with
        | none =>
          rw [Json.put_none_of_blank blank, fitMember_of_blank blank]
          exact fitMember_of_blank (Or.inl rfl)
        | some value =>
          rw [Json.put_some_of_blank blank]
          rfl
      | required =>
        rw [fitMember_object] at empty
        refine Eq.trans ?_ (empty.trans ?_)
        · rfl
        · cases value with
          | none =>
            rw [Json.put_none_of_blank blank, fitMember_of_blank blank, Json.put_none_empty]
            rfl
          | some value => rw [Json.put_some_of_blank blank]
    · exact object presence members clear

end Shape

end Caretaker
