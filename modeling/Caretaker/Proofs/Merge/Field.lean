import Caretaker.Proofs.Merge.Copy

/-!
# Copying one field

The copy of a field is confined to its path.  `Json.ChangedAt` says what it is for a document to
differ from another one at a path only: the path has its new value, everything beside the path is as
it was, the objects above it have all their other members, and those that were missing have no
other.  The edits that copy a field from a wanted document to a live one always apply where the path
leads through absent values, nulls and objects, they leave a document that differs there only, and a
second copy finds nothing more to do (`FieldEdit.copyField_confined`).  The members of the documents
may stand in any order.
-/

namespace Caretaker

namespace Json

/-- One document is another one after a change at a path. -/
structure ChangedAt (path : List String) (value : Option Json) (before after : Json) : Prop where
  /-- The path has the value, or nothing if there is none. -/
  found : after.at? path = value
  /-- A path that leads neither to nor through the changed one has what it had. -/
  apart : ∀ other, Independent path other → after.at? other = before.at? other
  /-- An object that the path leads through is an object still, with all its other members. -/
  above : ∀ place name rest members, path = place ++ name :: rest →
    before.at? place = some (.object members) →
      ∃ kept, after.at? place = some (.object kept) ∧
        ∀ other, other ≠ name → Assoc.get? kept other = Assoc.get? members other
  /-- What the path leads through and was missing is made for the value, with the next member and no
  other. -/
  made : value.isSome → ∀ place name rest, path = place ++ name :: rest →
    Blank (before.at? place) → ∃ child, after.at? place = some (.object [(name, child)])

/-- Nothing has changed where the value is the one that was there. -/
theorem ChangedAt.refl (document : Json) (path : List String) :
    ChangedAt path (document.at? path) document document where
  found := rfl
  apart _ _ := rfl
  above _ _ _ members _ found := ⟨members, found, fun _ _ => rfl⟩
  made found place name rest split missing := by
    -- Below a missing parent there is no value.
    have below : document.at? (place ++ name :: rest) =
        reach (name :: rest) (document.at? place) := at?_append document place (name :: rest)
    rw [split, below, reach_of_blank missing] at found
    cases found

/-- A write changes a document at its path. -/
theorem changedAt_of_put {path : List String} {value : Option Json} {before after : Json}
    (passable : Passable path (some before)) (written : put value path (some before) = some after) :
    ChangedAt path value before after where
  found := by
    have found := reach_put passable value
    rwa [written] at found
  apart other independent := by
    have kept := reach_put_of_independent passable independent value
    rwa [written] at kept
  above place name rest members split found := by
    subst split
    have changed := reach_put_above passable found value
    rw [written] at changed
    refine ⟨_, changed, fun other apart => ?_⟩
    rw [Assoc.get?_alter, if_neg apart]
  made isSome place name rest split missing := by
    subst split
    obtain ⟨given, rfl⟩ := Option.isSome_iff_exists.mp isSome
    obtain ⟨child, made⟩ := reach_put_of_missing passable missing given
    rw [written] at made
    exact ⟨child, made⟩

end Json

namespace FieldEdit

open Json

/-- The edits that copy a field apply where the path of the field leads through absent values, nulls
and objects of the live document.  They change that document at the path only, which then has what
the wanted document has there, or nothing.  There are no edits if neither document has the field,
and copying the field once more changes nothing. -/
theorem copyField_confined (wanted : Json) {live : Members} {path : List String}
    (notRoot : path ≠ []) (passable : Passable path (some (.object live))) :
    ∃ copied, performAll? (.object live) (copyField (.object live) wanted path) = some copied ∧
      ChangedAt path (wanted.at? path) (.object live) copied ∧
      (wanted.at? path = none → (Json.object live).at? path = none →
        copyField (.object live) wanted path = []) ∧
      performAll? copied (copyField copied wanted path) = some copied := by
  cases given : wanted.at? path with
  | some value =>
    obtain ⟨written, same⟩ := exists_put_object (some value) live notRoot
    have writtenPassable : Passable path (some (.object written)) := by
      rw [← same]
      exact passable.put (some value)
    -- The second copy writes the same value, and the later write wins.
    have again : copied? wanted (.object written) path = some (.object written) := by
      rw [copied?_of_given writtenPassable notRoot given, ← same,
        put_put passable fun _ => Or.inl rfl]
    refine ⟨.object written, ?_, changedAt_of_put passable same, nofun, again⟩
    exact (copied?_of_given passable notRoot given).trans same
  | none =>
    cases found : (Json.object live).at? path with
    | some value =>
      obtain ⟨written, same⟩ := exists_put_object none live notRoot
      have changed := changedAt_of_put passable same
      have isSome : ((Json.object live).at? path).isSome := by rw [found]; rfl
      refine ⟨.object written, ?_, changed, nofun, ?_⟩
      · exact (copied?_of_lacking passable notRoot given isSome).trans same
      · rw [copyField_of_absent given changed.found, performAll?_nil]
    | none =>
      have nothing : copyField (.object live) wanted path = [] := copyField_of_absent given found
      have unchanged : performAll? (.object live) (copyField (.object live) wanted path) =
          some (.object live) := by rw [nothing, performAll?_nil]
      exact ⟨.object live, unchanged, found ▸ ChangedAt.refl _ path, fun _ _ => nothing, unchanged⟩

section Sample

/-- A live document whose specification has no template. -/
def bareLive : Members :=
  [("metadata", .object [("name", .text "web")]),
    ("spec", .object [("replicas", .int 2), ("template", .null)])]

/-- A wanted document with labels in the metadata of its template. -/
def labelledWanted : Json :=
  .object [("spec", .object [("template", .object [("metadata",
    .object [("labels", .object [("app", .text "web")])])])])]

/-- Where the labels of a template are. -/
def templateLabels : List String := ["spec", "template", "metadata", "labels"]

/-- The labels are copied below the null in the place of the template, and the number of replicas
stays. -/
theorem copyField_confined_of_null_template :
    templateLabels ≠ [] ∧ Passable templateLabels (some (.object bareLive)) ∧
      ∃ copied, performAll? (.object bareLive)
          (copyField (.object bareLive) labelledWanted templateLabels) = some copied ∧
        copied.at? templateLabels = some (.object [("app", .text "web")]) ∧
        copied.at? ["spec", "replicas"] = some (.int 2) ∧
        performAll? copied (copyField copied labelledWanted templateLabels) = some copied := by
  have notRoot : templateLabels ≠ [] := List.cons_ne_nil _ _
  have passable : Passable templateLabels (some (.object bareLive)) := by
    refine passable_cons.mpr (Or.inr ⟨_, rfl, passable_cons.mpr (Or.inr ⟨_, rfl, ?_⟩)⟩)
    exact passable_cons.mpr (Or.inl (Or.inr rfl))
  obtain ⟨copied, applied, changed, -, again⟩ :=
    copyField_confined labelledWanted notRoot passable
  exact ⟨notRoot, passable, copied, applied, changed.found, changed.apart _ (by decide), again⟩

/-- Only the parents that are missing are made: the null in the place of the template is replaced,
the specification is not. -/
example : copyField (.object bareLive) labelledWanted templateLabels =
    [.add ["spec", "template"] (.object []), .add ["spec", "template", "metadata"] (.object []),
      .add templateLabels (.object [("app", .text "web")])] := rfl

end Sample

end FieldEdit

end Caretaker
