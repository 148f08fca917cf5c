import Caretaker.Proofs.Json.PutAll
import Caretaker.Proofs.Shape.Put

/-!
# Writing into documents at several paths

`Document.putAll` writes at several paths of a document and brings the result into normal form
again.  It obeys the laws of `Json.putAll`: what is there already may be written back
(`Document.putAll_of_reach`), writing twice is writing once (`Document.putAll_idem`), and a second
write to the same paths replaces the first (`Document.putAll_putAll`).
-/

namespace Caretaker

namespace Shape

/-- Whether paths lead through the fields of a shape, below its root, without meeting each other. -/
structure Admits (shape : Shape) (paths : List (List String)) : Prop where
  ordered : shape.isOrdered = true
  record : shape = .record shape.fields
  found : ∀ path ∈ paths, (shape.at? path).isSome
  notRoot : ∀ path ∈ paths, path ≠ []
  independent : paths.Pairwise Json.Independent

variable {shape : Shape} {presence : Presence} {paths : List (List String)}
  {value : List String → Option Json} {current : Option Json}

theorem normalField_fitMember (presence : Presence) (shape : Shape) (current : Option Json) :
    NormalField (some (presence, shape)) (fitMember (presence, shape) current) := by
  have blankCase (blank : Json.Blank current) :
      NormalField (some (presence, shape)) (fitMember (presence, shape) current) := by
    rw [fitMember_of_blank blank]
    cases presence with
    | optional => rfl
    | required => exact ⟨nofun, fit_normal shape .null⟩
  cases current with
  | none => exact blankCase (Or.inl rfl)
  | some value =>
    by_cases isNull : value = .null
    · exact blankCase (Or.inr (congrArg some isNull))
    · rw [fitMember_some isNull]
      exact ⟨fun _ => fit_ne_null shape isNull, fit_normal shape value⟩

/-- The paths of a normal form are clear. -/
theorem Admits.clear (admits : shape.Admits paths)
    (normal : NormalField (some (presence, shape)) current) :
    ∀ path ∈ paths, Json.Clear path current := by
  intro path member
  obtain ⟨leaf, found⟩ := Option.isSome_iff_exists.mp (admits.found path member)
  exact clear_of_normal admits.ordered found normal

theorem Admits.tail {path : List String} (admits : shape.Admits (path :: paths)) :
    shape.Admits paths where
  ordered := admits.ordered
  record := admits.record
  found other member := admits.found other (List.mem_cons_of_mem _ member)
  notRoot other member := admits.notRoot other (List.mem_cons_of_mem _ member)
  independent := (List.pairwise_cons.mp admits.independent).2

/-- Writes of accepted values leave an accepted document. -/
theorem Admits.acceptsMember_putAll (admits : shape.Admits paths)
    (clear : ∀ path ∈ paths, Json.Clear path current) (accepted : AcceptsMember shape current)
    (valueAccepted : ∀ path ∈ paths, ∀ leaf, shape.at? path = some leaf →
      AcceptsMember leaf (value path)) :
    AcceptsMember shape (Json.putAll value paths current) := by
  induction paths generalizing current with
  | nil => exact accepted
  | cons head rest ih =>
    have headMember := List.mem_cons_self (a := head) (l := rest)
    obtain ⟨leaf, found⟩ := Option.isSome_iff_exists.mp (admits.found head headMember)
    refine ih admits.tail (Json.clear_put_of_pairwise clear admits.independent _)
      (acceptsMember_put admits.ordered found (clear head headMember) accepted
        (valueAccepted head headMember leaf found)) fun path member => ?_
    exact valueAccepted path (List.mem_cons_of_mem _ member)

/-- Fitting a document before several writes changes nothing about the fitted result. -/
theorem Admits.fitMember_putAll (admits : shape.Admits paths)
    (clear : ∀ path ∈ paths, Json.Clear path current) :
    fitMember (presence, shape)
        (Json.putAll value paths (fitMember (presence, shape) current)) =
      fitMember (presence, shape) (Json.putAll value paths current) := by
  induction paths generalizing current with
  | nil => exact fitMember_fitMember admits.ordered current
  | cons head rest ih =>
    have headMember := List.mem_cons_self (a := head) (l := rest)
    obtain ⟨leaf, found⟩ := Option.isSome_iff_exists.mp (admits.found head headMember)
    have fitted := admits.clear (normalField_fitMember presence shape current)
    have after := Json.clear_put_of_pairwise clear admits.independent (value head)
    have fittedAfter := Json.clear_put_of_pairwise fitted admits.independent (value head)
    rw [Json.putAll_cons, Json.putAll_cons, ← ih admits.tail after,
      ← ih admits.tail fittedAfter,
      fitMember_put admits.ordered found (clear head headMember)]

/-- Fitting keeps the objects that a path leads through. -/
theorem open_fitMember {leaf : Shape} {path : List String} (ordered : shape.isOrdered = true)
    (found : shape.at? path = some leaf) (isOpen : Json.Open path current) :
    Json.Open path (fitMember (presence, shape) current) := by
  induction path generalizing shape presence current with
  | nil => trivial
  | cons name rest ih =>
    obtain ⟨fields, field, rfl, named, below⟩ := exists_field_of_at? found
    obtain ⟨members, rfl, sorted, isOpen⟩ := isOpen
    rw [isOrdered] at ordered
    have fieldsSorted := ascending_of_areOrdered ordered
    rw [fitMember_object]
    refine ⟨_, rfl, ascending_fitMembers fieldsSorted members, ?_⟩
    rw [get?_fitMembers_eq fieldsSorted, named, Option.bind_some]
    exact ih (isOrdered_of_get? ordered named) below isOpen

/-- Fitting acts on each member by itself. -/
theorem reach_fitMember (record : shape = .record shape.fields)
    (sorted : Assoc.Ascending shape.fields) (members : Json.Members) (name : String) :
    Json.reach [name] (fitMember (presence, shape) (some (.object members))) =
      (Assoc.get? shape.fields name).bind fun field =>
        fitMember field (Json.reach [name] (some (.object members))) := by
  rw [record, fitMember_object, Json.reach_object, Json.reach_object, Json.reach_nil,
    Json.reach_nil, get?_fitMembers_eq sorted]
  rfl

end Shape

/-- Writes below an object leave an object. -/
theorem Json.exists_putAll_object (value : List String → Option Json) {paths : List (List String)}
    (notRoot : ∀ path ∈ paths, path ≠ []) (members : Json.Members) :
    ∃ written, Json.putAll value paths (some (.object members)) = some (.object written) := by
  induction paths generalizing members with
  | nil => exact ⟨members, rfl⟩
  | cons head rest ih =>
    obtain ⟨name, below, rfl⟩ := List.exists_cons_of_ne_nil (notRoot head List.mem_cons_self)
    rw [putAll_cons, put_object]
    exact ih (fun path member => notRoot path (List.mem_cons_of_mem _ member)) _

namespace Document

variable {shape : Shape} {paths : List (List String)} {value : List String → Option Json}

/-- The document with values written at several paths, in normal form again. -/
def putAll (value : List String → Option Json) (paths : List (List String))
    (document : Document shape) : Document shape :=
  of shape (Json.ofOption (Json.putAll value paths (some document.json)))

theorem normalField (document : Document shape) (notNull : document.json ≠ .null) :
    Shape.NormalField (some (.optional, shape)) (some document.json) :=
  ⟨fun _ => notNull, document.normal⟩

theorem exists_object (record : shape = .record shape.fields) (document : Document shape) :
    ∃ members, document.json = .object members := by
  generalize shape.fields = fields at record
  subst record
  obtain ⟨members, same, -⟩ := document.exists_members
  exact ⟨members, same⟩

theorem normalField_json (record : shape = .record shape.fields) (document : Document shape) :
    Shape.NormalField (some (.optional, shape)) (some document.json) := by
  obtain ⟨members, same⟩ := document.exists_object record
  exact document.normalField (by simp [same])

theorem clear_json (admits : shape.Admits paths) (document : Document shape) :
    ∀ path ∈ paths, Json.Clear path (some document.json) :=
  admits.clear (document.normalField_json admits.record)

theorem clear_putAll (admits : shape.Admits paths) (document : Document shape)
    {path : List String} (member : path ∈ paths) :
    Json.Clear path (Json.putAll value paths (some document.json)) := by
  have clear := document.clear_json admits
  exact (clear path member).putAll clear admits.independent fun _ =>
    Json.eq_or_independent_of_mem admits.independent member

theorem fitMember_json (admits : shape.Admits paths) (document : Document shape) :
    Shape.fitMember (.optional, shape) (some document.json) = some document.json := by
  obtain ⟨members, same⟩ := document.exists_object admits.record
  rw [Shape.fitMember_some (by simp [same])]
  exact congrArg some (Shape.fit_of_normal shape admits.ordered _ document.normal)

/-- The document after the writes is the fitted result of the writes. -/
theorem json_putAll (admits : shape.Admits paths) (document : Document shape) :
    some (putAll value paths document).json =
      Shape.fitMember (.optional, shape) (Json.putAll value paths (some document.json)) := by
  obtain ⟨members, same⟩ := document.exists_object admits.record
  obtain ⟨written, after⟩ := Json.exists_putAll_object value admits.notRoot members
  rw [putAll, same, after, Shape.fitMember_some (by simp)]
  rfl

theorem ext_some {left right : Document shape} (same : some left.json = some right.json) :
    left = right := ext (Option.some.inj same)

/-- Writing back what is there changes nothing. -/
theorem putAll_of_reach (admits : shape.Admits paths) {document : Document shape}
    (there : ∀ path ∈ paths, Json.reach path (some document.json) = value path) :
    putAll value paths document = document := by
  refine ext_some ?_
  rw [json_putAll admits, Json.putAll_of_reach (document.clear_json admits) there,
    fitMember_json admits]

/-- Writing the same values twice is writing them once. -/
theorem putAll_idem (admits : shape.Admits paths) (document : Document shape) :
    putAll value paths (putAll value paths document) = putAll value paths document := by
  refine ext_some ?_
  rw [json_putAll admits, json_putAll admits,
    admits.fitMember_putAll fun _ => document.clear_putAll admits,
    Json.putAll_idem (document.clear_json admits) admits.independent]

/-- A second write to the same paths replaces the first, if the parents of what was written first
were there. -/
theorem putAll_putAll (admits : shape.Admits paths) {first second : List String → Option Json}
    {document : Document shape}
    (parents : ∀ path ∈ paths, (first path).isSome → Json.Open path (some document.json)) :
    putAll second paths (putAll first paths document) = putAll second paths document := by
  refine ext_some ?_
  rw [json_putAll admits, json_putAll admits, json_putAll admits,
    admits.fitMember_putAll fun _ => document.clear_putAll admits,
    Json.putAll_putAll (document.clear_json admits) admits.independent parents]

/-- Writes keep the objects that lead to the places they write to. -/
theorem open_putAll (admits : shape.Admits paths) {document : Document shape}
    {path : List String} (member : path ∈ paths)
    (isOpen : Json.Open path (some document.json)) :
    Json.Open path (some (putAll value paths document).json) := by
  obtain ⟨leaf, found⟩ := Option.isSome_iff_exists.mp (admits.found path member)
  rw [json_putAll admits]
  exact Shape.open_fitMember admits.ordered found
    (isOpen.putAll_of_mem admits.independent member)

/-- Objects lead to a place that a value was written to. -/
theorem open_putAll_of_isSome (admits : shape.Admits paths) (document : Document shape)
    {path : List String} (member : path ∈ paths) (written : (value path).isSome) :
    Json.Open path (some (putAll value paths document).json) := by
  obtain ⟨leaf, found⟩ := Option.isSome_iff_exists.mp (admits.found path member)
  have there : (Json.reach path (Json.putAll value paths (some document.json))).isSome := by
    rwa [Json.reach_putAll (document.clear_json admits) admits.independent member]
  rw [json_putAll admits]
  exact Shape.open_fitMember admits.ordered found
    (Json.open_of_reach (document.clear_putAll admits member) there)

/-- A member that no path leads to or through stays as it is. -/
theorem get?_putAll_of_ne (admits : shape.Admits paths) (document : Document shape) {name : String}
    (apart : ∀ path ∈ paths, path.head? ≠ some name) :
    Json.reach [name] (some (putAll value paths document).json) =
      Json.reach [name] (some document.json) := by
  have sorted : Assoc.Ascending shape.fields := by
    have ordered := admits.ordered
    rw [admits.record, Shape.isOrdered] at ordered
    exact Shape.ascending_of_areOrdered ordered
  have independent : ∀ path ∈ paths, Json.Independent path [name] := by
    intro path member
    obtain ⟨head, rest, rfl⟩ := List.exists_cons_of_ne_nil (admits.notRoot path member)
    exact Json.independent_cons.mpr (Or.inl fun same => apart _ member (congrArg some same))
  obtain ⟨members, same⟩ := document.exists_object admits.record
  obtain ⟨written, after⟩ := Json.exists_putAll_object value admits.notRoot members
  have kept : Json.reach [name] (some (.object written)) =
      Json.reach [name] (some (.object members)) := by
    rw [← after, ← same]
    exact Json.reach_putAll_of_independent (document.clear_json admits) admits.independent
      independent
  have own := document.fitMember_json admits
  calc Json.reach [name] (some (putAll value paths document).json)
      = Json.reach [name] (Shape.fitMember (.optional, shape) (some (.object written))) := by
        rw [json_putAll admits, same, after]
    _ = Json.reach [name] (Shape.fitMember (.optional, shape) (some (.object members))) := by
        rw [Shape.reach_fitMember admits.record sorted,
          Shape.reach_fitMember admits.record sorted, kept]
    _ = Json.reach [name] (some document.json) := by rw [← same, own]

end Document

end Caretaker
