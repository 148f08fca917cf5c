import Caretaker.Merge
import Caretaker.Proofs.Json.PutAll

/-!
# Copying fields is writing at paths

The edits that copy a field apply to every object along whose path there are only absent values,
nulls and objects.  Together they write the wanted value at the path (`FieldEdit.copied?_of_given`)
or take the value there out (`FieldEdit.copied?_of_lacking`), and nothing is to be done where both
documents lack it (`FieldEdit.copyField_of_absent`).  In a document with ascending members all three
are one write (`FieldEdit.copied?_eq_put`), and copying several fields writes at all of their paths
(`FieldEdit.foldlM_copied?`).
-/

namespace Caretaker

namespace FieldEdit

open Json

/-- The edit one level further down, below the member with a given name. -/
def below (name : String) : FieldEdit → FieldEdit
  | add path value => add (name :: path) value
  | remove path => remove (name :: path)

/-- The path that an edit is about. -/
def path : FieldEdit → List String
  | add path _ | remove path => path

theorem performAll?_nil (document : Json) : performAll? document [] = some document := rfl

theorem performAll?_cons (document : Json) (edit : FieldEdit) (edits : List FieldEdit) :
    performAll? document (edit :: edits) =
      (perform? document edit).bind fun written => performAll? written edits := by
  rw [performAll?, List.foldlM_cons]
  rfl

theorem perform?_below {members : Members} {name : String} {child : Json} {edit : FieldEdit}
    (found : Assoc.get? members name = some child) (notRoot : edit.path ≠ []) :
    perform? (.object members) (edit.below name) =
      (perform? child edit).map fun written => .object (Assoc.insert members name written) := by
  cases edit with
  | add path value =>
    cases path with
    | nil => exact absurd rfl notRoot
    | cons next rest => simp only [below, perform?, addAt?, found]
  | remove path =>
    cases path with
    | nil => exact absurd rfl notRoot
    | cons next rest => simp only [below, perform?, removeAt?, found]

/-- Edits below a member act on that member. -/
theorem performAll?_below {members : Members} {name : String} {child : Json}
    {edits : List FieldEdit} (found : Assoc.get? members name = some child) (any : edits ≠ [])
    (notRoot : ∀ edit ∈ edits, edit.path ≠ []) :
    performAll? (.object members) (edits.map (below name)) =
      (performAll? child edits).map fun written => .object (Assoc.insert members name written) := by
  induction edits generalizing members child with
  | nil => exact absurd rfl any
  | cons edit rest ih =>
    rw [List.map_cons, performAll?_cons, performAll?_cons,
      perform?_below found (notRoot edit List.mem_cons_self)]
    cases perform? child edit with
    | none => rfl
    | some written =>
      cases rest with
      | nil => rfl
      | cons next rest =>
        have there : Assoc.get? (Assoc.insert members name written) name = some written := by
          rw [Assoc.get?_insert, if_pos rfl]
        have again (last : Json) : Assoc.insert (Assoc.insert members name written) name last =
            Assoc.insert members name last :=
          Assoc.alter_alter members name (some written) (some last)
        simp only [Option.map_some, Option.bind_some]
        rw [ih there (List.cons_ne_nil next rest) fun other member =>
          notRoot other (List.mem_cons_of_mem _ member)]
        simp only [again]

theorem isMissing_cons (members : Members) (name : String) {rest : List String}
    (notRoot : rest ≠ []) :
    isMissing (.object members) (name :: rest) =
      isMissing ((Assoc.get? members name).getD .null) rest := by
  cases found : Assoc.get? members name with
  | none =>
    cases rest with
    | nil => exact absurd rfl notRoot
    | cons next rest => simp [isMissing, at?, child?, found]
  | some child => simp [isMissing, at?, child?, found]

theorem isMissing_singleton {members : Members} {name : String} :
    isMissing (.object members) [name] = true ↔ Blank (Assoc.get? members name) := by
  cases found : Assoc.get? members name with
  | none => simp [isMissing, at?, child?, found, Blank]
  | some child => cases child <;> simp [isMissing, at?, child?, found, Blank]

/-- The edits that make the parents below a member are those of the member, one level further
down. -/
theorem addParents_cons {live child : Json} {name : String} {missing : Bool}
    (alike : missing = true ∨
      ∀ rest, rest ≠ [] → isMissing live (name :: rest) = isMissing child rest)
    (above rest : List String) :
    addParents live missing (name :: above) rest =
      (addParents child missing above rest).map (below name) := by
  induction rest generalizing missing above with
  | nil => rfl
  | cons next rest ih =>
    cases rest with
    | nil => rfl
    | cons last rest =>
      rcases alike with rfl | alike
      · simp only [addParents, Bool.true_or, if_true, List.map_cons, List.cons_append,
          ih (Or.inl rfl)]
        rfl
      · simp only [addParents, List.cons_append, alike (above ++ [next]) (by simp),
          ih (Or.inr alike)]
        split <;> rfl

theorem path_ne_nil_of_mem_addParents {live : Json} {missing : Bool} {above rest : List String}
    {edit : FieldEdit} (member : edit ∈ addParents live missing above rest) : edit.path ≠ [] := by
  induction rest generalizing missing above with
  | nil => cases member
  | cons next rest ih =>
    cases rest with
    | nil => cases member
    | cons last rest =>
      simp only [addParents] at member
      split at member
      · rcases List.mem_cons.mp member with rfl | later
        · simp [path]
        · exact ih later
      · exact ih member

/-- The edits that write a value at a path with the parents it lacks. -/
def addWithParents (live : Json) (missing : Bool) (route : List String) (value : Json) :
    List FieldEdit :=
  addParents live missing [] route ++ [add route value]

theorem addWithParents_ne_nil (live : Json) (missing : Bool) (route : List String) (value : Json) :
    addWithParents live missing route value ≠ [] :=
  List.append_ne_nil_of_right_ne_nil _ (List.cons_ne_nil _ _)

theorem path_ne_nil_of_mem_addWithParents {live value : Json} {missing : Bool} {next : String}
    {rest : List String} {edit : FieldEdit}
    (member : edit ∈ addWithParents live missing (next :: rest) value) : edit.path ≠ [] := by
  rcases List.mem_append.mp member with parent | last
  · exact path_ne_nil_of_mem_addParents parent
  · rw [List.mem_singleton.mp last]
    simp [path]

/-- Below a parent that is missing, or under which the same is missing as in the whole document, the
edits are those for the document there. -/
theorem map_addWithParents (live : Json) {child value : Json} {name next : String}
    {rest : List String} {missing : Bool}
    (alike : missing = true ∨
      ∀ rest, rest ≠ [] → isMissing live (name :: rest) = isMissing child rest) :
    addParents live missing [name] (next :: rest) ++ [add (name :: next :: rest) value] =
      (addWithParents child missing (next :: rest) value).map (below name) := by
  rw [addParents_cons alike, addWithParents, List.map_append]
  rfl

/-- A missing member is made first; everything below it is missing as well. -/
theorem addWithParents_of_missing {live value : Json} {missing : Bool} {name next : String}
    {rest : List String} (absent : (missing || isMissing live [name]) = true) :
    addWithParents live missing (name :: next :: rest) value =
      add [name] (.object []) ::
        (addWithParents live true (next :: rest) value).map (below name) := by
  rw [← map_addWithParents live (Or.inl rfl)]
  simp only [addWithParents, addParents, List.nil_append, absent, if_true, List.cons_append]

/-- Nothing is made for a member that is there. -/
theorem addWithParents_of_present {members : Members} {child value : Json} {name next : String}
    {rest : List String} (found : Assoc.get? members name = some child)
    (present : isMissing (.object members) [name] = false) :
    addWithParents (.object members) false (name :: next :: rest) value =
      (addWithParents child false (next :: rest) value).map (below name) := by
  have alike : ∀ path, path ≠ [] →
      isMissing (.object members) (name :: path) = isMissing child path := by
    intro path notRoot
    rw [isMissing_cons _ _ notRoot, found]
    rfl
  rw [← map_addWithParents _ (Or.inr alike)]
  simp [addWithParents, addParents, present]

/-- Making the missing parents and writing a value is one write.  Below a parent that was missing
everything is missing, and the document there is empty. -/
theorem performAll?_addWithParents {live value : Json} {missing : Bool} {members : Members}
    {route : List String} (notRoot : route ≠ [])
    (passable : Passable route (some (.object members)))
    (there : missing = false → live = .object members) (made : missing = true → members = []) :
    performAll? (.object members) (addWithParents live missing route value) =
      put (some value) route (some (.object members)) := by
  induction route generalizing live missing members with
  | nil => exact absurd rfl notRoot
  | cons name rest ih =>
    cases rest with
    | nil => rfl
    | cons next rest =>
      have restNotRoot : next :: rest ≠ [] := List.cons_ne_nil next rest
      have editsNotRoot (live : Json) (missing : Bool) :
          ∀ edit ∈ addWithParents live missing (next :: rest) value, edit.path ≠ [] :=
        fun edit member => path_ne_nil_of_mem_addWithParents member
      by_cases absent : (missing || isMissing live [name]) = true
      · have blank : Blank (Assoc.get? members name) := by
          cases missing with
          | true =>
            rw [made rfl]
            exact Or.inl rfl
          | false =>
            rw [there rfl, Bool.false_or] at absent
            exact isMissing_singleton.mp absent
        have made : Assoc.get? (Assoc.insert members name (.object [])) name =
            some (.object []) := by
          rw [Assoc.get?_insert, if_pos rfl]
        rw [addWithParents_of_missing absent, performAll?_cons]
        simp only [perform?, addAt?, Option.bind_some]
        rw [performAll?_below made (addWithParents_ne_nil _ _ _ _) (editsNotRoot _ _),
          ih restNotRoot (clear_empty _).passable (fun same => absurd same (by decide))
            fun _ => rfl,
          put_object (some value) name, put_some_of_blank blank]
        exact congrArg (some ∘ Json.object)
          (Assoc.alter_alter members name (some (.object [])) (some _))
      · obtain ⟨rfl, present⟩ : missing = false ∧ isMissing live [name] = false := by
          simpa using absent
        have own := there rfl
        subst own
        obtain ⟨child, found⟩ :
            ∃ childMembers, Assoc.get? members name = some (.object childMembers) := by
          rcases passable_cons.mp passable.below with blank | ⟨childMembers, found, -⟩
          · rw [isMissing_singleton.mpr blank] at present
            cases present
          · exact ⟨childMembers, found⟩
        have below := passable.below
        rw [found] at below
        rw [addWithParents_of_present found present,
          performAll?_below found (addWithParents_ne_nil _ _ _ _) (editsNotRoot _ _),
          ih restNotRoot below (fun _ => rfl) (fun same => absurd same (by decide)),
          put_object (some value) name, found]
        rfl

/-- Taking out what is there is a write. -/
theorem removeAt?_eq_put {members : Members} {route : List String}
    (passable : Passable route (some (.object members)))
    (found : (reach route (some (.object members))).isSome) (notRoot : route ≠ []) :
    removeAt? (.object members) route = put none route (some (.object members)) := by
  induction route generalizing members with
  | nil => exact absurd rfl notRoot
  | cons name rest ih =>
    rw [reach_object] at found
    cases rest with
    | nil =>
      rw [reach_nil] at found
      simp only [removeAt?, found, if_true]
      rfl
    | cons next rest =>
      have below := passable.below
      rcases passable_cons.mp below with blank | ⟨child, same, -⟩
      · rw [reach_of_blank blank] at found
        cases found
      · rw [same] at found below
        simp only [removeAt?, put_object, same, ih below found (List.cons_ne_nil next rest)]
        rfl

section Field

variable {wanted : Json} {members : Members} {route : List String}

/-- A field that the wanted document has is written. -/
theorem copied?_of_given {value : Json} (passable : Passable route (some (.object members)))
    (notRoot : route ≠ []) (given : wanted.at? route = some value) :
    copied? wanted (.object members) route =
      put (some value) route (some (.object members)) := by
  rw [copied?, copyField, given]
  exact performAll?_addWithParents notRoot passable (fun _ => rfl) nofun

/-- A field that only the live document has is taken out. -/
theorem copied?_of_lacking (passable : Passable route (some (.object members)))
    (notRoot : route ≠ []) (lacking : wanted.at? route = none)
    (found : ((Json.object members).at? route).isSome) :
    copied? wanted (.object members) route = put none route (some (.object members)) := by
  rw [copied?, copyField, lacking]
  simp only [found, if_true]
  rw [performAll?_cons, perform?, removeAt?_eq_put passable found notRoot]
  cases put none route (some (.object members)) <;> rfl

/-- A field that neither document has asks for no edit. -/
theorem copyField_of_absent {live : Json} (lacking : wanted.at? route = none)
    (absent : live.at? route = none) : copyField live wanted route = [] := by
  rw [copyField, lacking, absent]
  rfl

/-- Copying a field writes what the wanted document has at its path. -/
theorem copied?_eq_put (wanted : Json) (clear : Clear route (some (.object members)))
    (notRoot : route ≠ []) :
    copied? wanted (.object members) route =
      put (reach route (some wanted)) route (some (.object members)) := by
  have wantedAt : reach route (some wanted) = wanted.at? route := rfl
  rw [wantedAt]
  cases given : wanted.at? route with
  | some value => exact copied?_of_given clear.passable notRoot given
  | none =>
    cases found : (Json.object members).at? route with
    | some value => exact copied?_of_lacking clear.passable notRoot given (by rw [found]; rfl)
    | none =>
      have nothing : reach route (some (.object members)) = none := found
      rw [copied?, copyField_of_absent given found, ← nothing, put_reach clear]
      rfl

end Field

/-- A write below an object leaves an object. -/
theorem exists_put_object (value : Option Json) {route : List String} (members : Members)
    (notRoot : route ≠ []) :
    ∃ written, put value route (some (.object members)) = some (.object written) := by
  cases route with
  | nil => exact absurd rfl notRoot
  | cons name rest => exact ⟨_, rfl⟩

/-- Copying several fields writes at all of their paths. -/
theorem foldlM_copied? {members : Members} (wanted : Json) {routes : List (List String)}
    (clear : ∀ route ∈ routes, Clear route (some (.object members)))
    (independent : routes.Pairwise Independent) (notRoot : ∀ route ∈ routes, route ≠ []) :
    routes.foldlM (copied? wanted) (.object members) =
      putAll (fun route => reach route (some wanted)) routes (some (.object members)) := by
  induction routes generalizing members with
  | nil => rfl
  | cons head rest ih =>
    have headNotRoot := notRoot head List.mem_cons_self
    have restClear := clear_put_of_pairwise clear independent (reach head (some wanted))
    rw [List.foldlM_cons, copied?_eq_put wanted (clear head List.mem_cons_self) headNotRoot,
      putAll_cons]
    obtain ⟨written, same⟩ := exists_put_object (reach head (some wanted)) members headNotRoot
    rw [same] at restClear ⊢
    exact ih restClear (List.pairwise_cons.mp independent).2 fun route member =>
      notRoot route (List.mem_cons_of_mem _ member)

end FieldEdit

end Caretaker
