import Caretaker.Proofs.Shape.PutAll

/-!
# What writing at several paths does to the other places

A written value gets the objects that lead to it.  Where there was nothing such an object is made
(`Json.Makes`), and in normal form it holds the members that its shape always writes
(`Shape.made?`).  After the writes a written value is there (`Document.reach_putAll_of_mem`), a
place whose value was taken out is empty unless its field is required
(`Document.reach_putAll_of_taken`), and every place apart from the written ones is as it was, or
lies in an object that was made (`Document.reach_putAll_of_independent`).
-/

namespace Caretaker

namespace Json

/-- Whether writing at paths makes an object at a place: there is nothing, and a value is written
below. -/
def Makes (value : List String → Option Json) (paths : List (List String))
    (current : Option Json) (place : List String) : Prop :=
  reach place current = none ∧
    ∃ path ∈ paths, place <+: path ∧ place ≠ path ∧ (value path).isSome

/-- What is left of the paths that begin with a name after that name. -/
def pathsBelow (name : String) (paths : List (List String)) : List (List String) :=
  paths.filterMap fun path =>
    match path with
    | [] => none
    | head :: rest => if head = name then some rest else none

variable {value : List String → Option Json} {paths : List (List String)} {current : Option Json}

theorem mem_pathsBelow {name : String} {rest : List String} :
    rest ∈ pathsBelow name paths ↔ name :: rest ∈ paths := by
  rw [pathsBelow, List.mem_filterMap]
  constructor
  · rintro ⟨path, member, same⟩
    cases path with
    | nil => cases same
    | cons head tail =>
      simp only [Option.ite_none_right_eq_some, Option.some.injEq] at same
      obtain ⟨rfl, rfl⟩ := same
      exact member
  · intro member
    exact ⟨_, member, if_pos rfl⟩

theorem pathsBelow_cons_self (name : String) (rest : List String) :
    pathsBelow name ((name :: rest) :: paths) = rest :: pathsBelow name paths := by
  rw [pathsBelow, List.filterMap_cons]
  simp only [if_true]
  rfl

theorem pathsBelow_cons_of_ne {name head : String} (apart : head ≠ name) (rest : List String) :
    pathsBelow name ((head :: rest) :: paths) = pathsBelow name paths := by
  rw [pathsBelow, List.filterMap_cons]
  simp only [if_neg apart]
  rfl

/-- Writes into an object act on each of its members by itself. -/
theorem exists_putAll_members (value : List String → Option Json)
    (notRoot : ∀ path ∈ paths, path ≠ []) (members : Members) :
    ∃ written, putAll value paths (some (.object members)) = some (.object written) ∧
      ∀ name, Assoc.get? written name =
        putAll (fun rest => value (name :: rest)) (pathsBelow name paths)
          (Assoc.get? members name) := by
  induction paths generalizing members with
  | nil => exact ⟨members, rfl, fun _ => rfl⟩
  | cons path paths ih =>
    obtain ⟨head, rest, rfl⟩ := List.exists_cons_of_ne_nil (notRoot path List.mem_cons_self)
    obtain ⟨written, same, found⟩ := ih
      (fun other member => notRoot other (List.mem_cons_of_mem _ member))
      (Assoc.alter members head (put (value (head :: rest)) rest (Assoc.get? members head)))
    refine ⟨written, by rw [putAll_cons, put_object, same], fun name => ?_⟩
    rw [found, Assoc.get?_alter]
    by_cases isHead : name = head
    · subst isHead
      rw [if_pos rfl, pathsBelow_cons_self, putAll_cons]
    · rw [if_neg isHead, pathsBelow_cons_of_ne (Ne.symm isHead)]

/-- Taking values out of nothing leaves nothing. -/
theorem putAll_none (taken : ∀ path ∈ paths, value path = none) :
    putAll value paths none = none := by
  induction paths with
  | nil => rfl
  | cons head rest ih =>
    rw [putAll_cons, taken head List.mem_cons_self, put_none_none]
    exact ih fun path member => taken path (List.mem_cons_of_mem _ member)

/-- Writing a value where there is nothing is writing it into the empty object. -/
theorem putAll_none_of_isSome (notRoot : ∀ path ∈ paths, path ≠ [])
    (written : ∃ path ∈ paths, (value path).isSome) :
    putAll value paths none = putAll value paths (some (.object [])) := by
  induction paths with
  | nil =>
    obtain ⟨path, member, -⟩ := written
    cases member
  | cons path paths ih =>
    obtain ⟨head, rest, rfl⟩ := List.exists_cons_of_ne_nil (notRoot path List.mem_cons_self)
    rw [putAll_cons, putAll_cons]
    cases given : value (head :: rest) with
    | some value => rw [put_some_of_blank (Or.inl rfl)]
    | none =>
      rw [put_none_none, put_none_empty]
      refine ih (fun other member => notRoot other (List.mem_cons_of_mem _ member)) ?_
      obtain ⟨other, member, isSome⟩ := written
      rcases List.mem_cons.mp member with rfl | later
      · rw [given] at isSome
        cases isSome
      · exact ⟨other, later, isSome⟩

/-- An object that is made below a member is made in the object that holds the member. -/
theorem Makes.cons {name : String} {place : List String} {members : Members}
    (makes : Makes (fun rest => value (name :: rest)) (pathsBelow name paths)
      (Assoc.get? members name) place) :
    Makes value paths (some (.object members)) (name :: place) := by
  obtain ⟨absent, path, member, above, apart, isSome⟩ := makes
  exact ⟨absent, name :: path, mem_pathsBelow.mp member,
    (List.prefix_cons_inj name).mpr above, fun same => apart (List.cons.inj same).2, isSome⟩

theorem Makes.of_cons {name : String} {place : List String} {members : Members}
    (makes : Makes value paths (some (.object members)) (name :: place)) :
    Makes (fun rest => value (name :: rest)) (pathsBelow name paths)
      (Assoc.get? members name) place := by
  obtain ⟨absent, path, member, above, apart, isSome⟩ := makes
  obtain ⟨tail, rfl⟩ := above
  refine ⟨absent, place ++ tail, mem_pathsBelow.mpr member, List.prefix_append _ _, fun same => ?_,
    isSome⟩
  exact apart (congrArg (name :: ·) same)

/-- An object that is made in a document is not the whole document. -/
theorem Makes.exists_cons {name : String} {place rest : List String} {document : Json}
    (makes : Makes value paths (some document) place) (above : place <+: name :: rest) :
    ∃ below, place = name :: below ∧ below <+: rest := by
  rcases List.prefix_cons_iff.mp above with rfl | ⟨below, rfl, aboveRest⟩
  · cases makes.1
  · exact ⟨below, rfl, aboveRest⟩

end Json

namespace Shape

/-- The field that a path below the root of a shape ends at. -/
def field? : Shape → List String → Option (Presence × Shape)
  | .record fields, [name] => Assoc.get? fields name
  | .record fields, name :: next :: rest =>
    (Assoc.get? fields name).bind fun field => field.2.field? (next :: rest)
  | _, _ => none

/-- The object that is made at a place: it holds the members that are always there. -/
def made? (shape : Shape) (place : List String) : Option Json :=
  (shape.at? place).map fun found => found.fit .null

variable {shape leaf : Shape} {presence : Presence} {value : List String → Option Json}
  {paths : List (List String)} {path : List String} {current : Option Json}

/-- Fitting keeps a value of the right form where it is. -/
theorem reach_fitMember_of_normal (ordered : shape.isOrdered = true)
    (found : shape.at? path = some leaf) (isOpen : Json.Open path current) {value : Json}
    (there : Json.reach path current = some value) (notNull : value ≠ .null)
    (normal : leaf.Normal value) :
    Json.reach path (fitMember (presence, shape) current) = some value := by
  induction path generalizing shape presence current with
  | nil =>
    cases found
    rw [Json.reach_nil] at there
    rw [there, fitMember_some notNull, Json.reach_nil]
    exact congrArg some (fit_of_normal leaf ordered value normal)
  | cons name rest ih =>
    obtain ⟨fields, field, rfl, named, below⟩ := exists_field_of_at? found
    obtain ⟨members, rfl, -, isOpen⟩ := isOpen
    rw [isOrdered] at ordered
    rw [fitMember_object, Json.reach_object, get?_fitMembers_eq (ascending_of_areOrdered ordered),
      named, Option.bind_some]
    exact ih (isOrdered_of_get? ordered named) below isOpen there

/-- Where there is nothing, fitting gives an object the member of a required field and no other. -/
theorem reach_fitMember_of_absent {field : Presence × Shape} (ordered : shape.isOrdered = true)
    (found : shape.field? path = some field) (clear : Json.Clear path current)
    (absent : Json.reach path current = none) :
    Json.reach path (fitMember (presence, shape) current) =
      (Json.reach path.dropLast (fitMember (presence, shape) current)).bind fun _ =>
        fitField field none := by
  induction path generalizing shape presence current with
  | nil => cases shape <;> cases found
  | cons name rest ih =>
    obtain ⟨fields, rfl⟩ : ∃ fields, shape = .record fields := by
      cases shape with
      | record fields => exact ⟨fields, rfl⟩
      | _ => cases found
    rw [isOrdered] at ordered
    have sorted := ascending_of_areOrdered ordered
    have object (members : Json.Members) (clear : Json.Clear rest (Assoc.get? members name))
        (absent : Json.reach rest (Assoc.get? members name) = none) :
        Json.reach (name :: rest) (some (.object (fitMembers fields members))) =
          (Json.reach (name :: rest).dropLast (some (.object (fitMembers fields members)))).bind
            fun _ => fitField field none := by
      rw [Json.reach_object, get?_fitMembers_eq sorted]
      cases rest with
      | nil =>
        rw [field?] at found
        rw [Json.reach_nil] at absent
        rw [found, Option.bind_some, absent, Json.reach_nil, fitMember_of_blank (Or.inl rfl)]
        rfl
      | cons next rest =>
        rw [field?, Option.bind_eq_some_iff] at found
        obtain ⟨inner, named, below⟩ := found
        rw [List.dropLast_cons_cons, Json.reach_object, get?_fitMembers_eq sorted, named,
          Option.bind_some]
        exact ih (isOrdered_of_get? ordered named) below clear absent
    rcases clear with blank | ⟨members, rfl, -, clear⟩
    · rw [fitMember_of_blank blank]
      cases presence with
      | optional => cases rest <;> rfl
      | required => exact object [] (Json.clear_none _) (by cases rest <;> rfl)
    · rw [fitMember_object]
      exact object members clear absent

/-- Whether a place is after some writes as it is without them, or lies in an object that they make
and holds what such an object holds there. -/
def Spares (shape : Shape) (value : List String → Option Json) (paths : List (List String))
    (current : Option Json) (path : List String) (before after : Option Json) : Prop :=
  (∃ place rest, path = place ++ rest ∧ Json.Makes value paths current place ∧
      Json.reach path after = Json.reach rest (shape.made? place)) ∨
    (∀ place, Json.Makes value paths current place → ¬ place <+: path) ∧
      Json.reach path after = Json.reach path before

/-- Without a path nothing is written. -/
theorem spares_nil : shape.Spares value [] current path (fitMember (presence, shape) current)
    (fitMember (presence, shape) (Json.putAll value [] current)) := by
  refine Or.inr ⟨fun place makes => ?_, rfl⟩
  obtain ⟨-, other, member, -⟩ := makes
  cases member

/-- In an object the writes below a member decide what is left below it. -/
theorem spares_object {fields : Fields} {name : String} {rest : List String}
    {members : Json.Members} (ordered : areOrdered fields = true)
    (found : ∀ other ∈ paths, ((record fields).at? other).isSome)
    (notRoot : ∀ other ∈ paths, other ≠ [])
    (below : ∀ field, Assoc.get? fields name = some field →
      field.2.Spares (fun rest => value (name :: rest)) (Json.pathsBelow name paths)
        (Assoc.get? members name) rest (fitMember field (Assoc.get? members name))
        (fitMember field (Json.putAll (fun rest => value (name :: rest))
          (Json.pathsBelow name paths) (Assoc.get? members name)))) :
    (record fields).Spares value paths (some (.object members)) (name :: rest)
      (fitMember (presence, record fields) (some (.object members)))
      (fitMember (presence, record fields) (Json.putAll value paths (some (.object members)))) := by
  have sorted := ascending_of_areOrdered ordered
  obtain ⟨written, same, memberOf⟩ := Json.exists_putAll_members value notRoot members
  rw [Spares, same, fitMember_object, fitMember_object, Json.reach_object, Json.reach_object,
    get?_fitMembers_eq sorted, get?_fitMembers_eq sorted, memberOf]
  cases named : Assoc.get? fields name with
  | none =>
    refine Or.inr ⟨fun place makes above => ?_, rfl⟩
    obtain ⟨tail, rfl, -⟩ := makes.exists_cons above
    obtain ⟨-, other, member, -⟩ := makes.of_cons
    have whole := found _ (Json.mem_pathsBelow.mp member)
    rw [at?, named] at whole
    cases whole
  | some field =>
    rw [Option.bind_some, Option.bind_some]
    rcases below field named with ⟨place, tail, rfl, makes, reached⟩ | ⟨notMade, reached⟩
    · refine Or.inl ⟨name :: place, tail, rfl, makes.cons, ?_⟩
      rw [reached, made?, made?, at?, named, Option.bind_some]
    · refine Or.inr ⟨fun place makes above => ?_, reached⟩
      obtain ⟨tail, rfl, aboveRest⟩ := makes.exists_cons above
      exact notMade tail makes.of_cons aboveRest

/-- What is written where there is nothing is written into an object that is made there. -/
theorem spares_none {fields : Fields} {name : String} {rest : List String}
    (notRoot : ∀ other ∈ paths, other ≠ [])
    (object : (record fields).Spares value paths (some (.object [])) (name :: rest)
      (fitMember (presence, record fields) (some (.object [])))
      (fitMember (presence, record fields) (Json.putAll value paths (some (.object []))))) :
    (record fields).Spares value paths none (name :: rest)
      (fitMember (presence, record fields) none)
      (fitMember (presence, record fields) (Json.putAll value paths none)) := by
  by_cases written : ∃ other ∈ paths, (value other).isSome
  · obtain ⟨other, member, isSome⟩ := written
    have root : Json.Makes value paths none [] :=
      ⟨rfl, other, member, List.nil_prefix, (notRoot other member).symm, isSome⟩
    rw [Json.putAll_none_of_isSome notRoot ⟨other, member, isSome⟩]
    rcases object with ⟨place, tail, same, makes, reached⟩ | ⟨-, reached⟩
    · exact Or.inl ⟨place, tail, same, ⟨rfl, makes.2⟩, reached⟩
    · refine Or.inl ⟨[], name :: rest, rfl, root, reached.trans ?_⟩
      rw [fitMember_object]
      rfl
  · have taken : ∀ other ∈ paths, value other = none := by
      intro other member
      cases given : value other with
      | none => rfl
      | some document => exact absurd ⟨other, member, by rw [given]; rfl⟩ written
    refine Or.inr ⟨fun place makes => ?_, by rw [Json.putAll_none taken]⟩
    obtain ⟨-, other, member, -, -, isSome⟩ := makes
    exact absurd ⟨other, member, isSome⟩ written

/-- Writes spare every place apart from theirs. -/
theorem spares_fitMember_putAll (ordered : shape.isOrdered = true)
    (found : ∀ other ∈ paths, (shape.at? other).isSome)
    (independent : ∀ other ∈ paths, Json.Independent other path)
    (suits : current = none ∨ NormalField (some (presence, shape)) current) :
    shape.Spares value paths current path (fitMember (presence, shape) current)
      (fitMember (presence, shape) (Json.putAll value paths current)) := by
  induction path generalizing shape presence value paths current with
  | nil =>
    -- Every path meets the root, so there is none.
    have noPath : paths = [] := List.eq_nil_iff_forall_not_mem.mpr fun other member =>
      (independent other member).2 List.nil_prefix
    subst noPath
    exact spares_nil
  | cons name rest ih =>
    by_cases noPath : paths = []
    · subst noPath
      exact spares_nil
    -- As there is a path, the shape is a record.
    have notRoot : ∀ other ∈ paths, other ≠ [] := fun other member =>
      (independent other member).ne_nil
    obtain ⟨first, firstMember⟩ := List.exists_mem_of_ne_nil paths noPath
    obtain ⟨firstName, firstRest, rfl⟩ := List.exists_cons_of_ne_nil (notRoot first firstMember)
    obtain ⟨firstLeaf, firstFound⟩ := Option.isSome_iff_exists.mp (found _ firstMember)
    obtain ⟨fields, -, rfl, -, -⟩ := exists_field_of_at? firstFound
    rw [isOrdered] at ordered
    have object (members : Json.Members)
        (suits : ∀ field, Assoc.get? fields name = some field →
          Assoc.get? members name = none ∨
            NormalField (some field) (Assoc.get? members name)) :
        (record fields).Spares value paths (some (.object members)) (name :: rest)
          (fitMember (presence, record fields) (some (.object members)))
          (fitMember (presence, record fields)
            (Json.putAll value paths (some (.object members)))) := by
      refine spares_object ordered found notRoot fun field named => ?_
      refine ih (isOrdered_of_get? ordered named) ?_ ?_ (suits field named)
      · intro other member
        have whole := found _ (Json.mem_pathsBelow.mp member)
        rwa [at?, named] at whole
      · intro other member
        have whole := independent _ (Json.mem_pathsBelow.mp member)
        exact (Json.independent_cons.mp whole).resolve_left fun apart => apart rfl
    cases current with
    | none => exact spares_none notRoot (object [] fun _ _ => Or.inl rfl)
    | some document =>
      rcases suits with absent | normal
      · cases absent
      obtain ⟨members, rfl, membersNormal⟩ := normal.2
      refine object members fun field named => Or.inr ?_
      have suits := membersNormal.field (ascending_of_areOrdered ordered) name
      rwa [named] at suits

end Shape

namespace Document

variable {shape : Shape} {paths : List (List String)} {value : List String → Option Json}

/-- A written value of the right form is there after the writes. -/
theorem reach_putAll_of_mem (admits : shape.Admits paths) (document : Document shape)
    {path : List String} {leaf : Shape} {written : Json} (member : path ∈ paths)
    (found : shape.at? path = some leaf) (given : value path = some written)
    (notNull : written ≠ .null) (normal : leaf.Normal written) :
    Json.reach path (some (putAll value paths document).json) = some written := by
  have there : Json.reach path (Json.putAll value paths (some document.json)) = some written := by
    rw [Json.reach_putAll (document.clear_json admits) admits.independent member, given]
  have isOpen : Json.Open path (Json.putAll value paths (some document.json)) :=
    Json.open_of_reach (document.clear_putAll admits member) (by rw [there]; rfl)
  rw [json_putAll admits]
  exact Shape.reach_fitMember_of_normal admits.ordered found isOpen there notNull normal

/-- Where a value was taken out there is nothing, unless the field is required in an object that is
there. -/
theorem reach_putAll_of_taken (admits : shape.Admits paths) (document : Document shape)
    {path : List String} {field : Presence × Shape} (member : path ∈ paths)
    (found : shape.field? path = some field) (taken : value path = none) :
    Json.reach path (some (putAll value paths document).json) =
      (Json.reach path.dropLast (some (putAll value paths document).json)).bind fun _ =>
        Shape.fitField field none := by
  rw [json_putAll admits]
  refine Shape.reach_fitMember_of_absent admits.ordered found
    (document.clear_putAll admits member) ?_
  rw [Json.reach_putAll (document.clear_json admits) admits.independent member, taken]

/-- A place apart from the written ones is as it was, or lies in an object that was made. -/
theorem reach_putAll_of_independent (admits : shape.Admits paths) (document : Document shape)
    {path : List String} (independent : ∀ other ∈ paths, Json.Independent other path) :
    shape.Spares value paths (some document.json) path (some document.json)
      (some (putAll value paths document).json) := by
  have spares : shape.Spares value paths (some document.json) path
      (Shape.fitMember (.optional, shape) (some document.json))
      (Shape.fitMember (.optional, shape) (Json.putAll value paths (some document.json))) :=
    Shape.spares_fitMember_putAll admits.ordered admits.found independent
      (Or.inr (document.normalField_json admits.record))
  rwa [document.fitMember_json admits, ← json_putAll admits] at spares

end Document

end Caretaker
