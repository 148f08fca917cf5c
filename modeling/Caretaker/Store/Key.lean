import Caretaker.Error
import Caretaker.Object

/-!
# Places in a store

An object has its place under its kind, namespace and name.  Places are ordered by the name of the
kind, then by namespace, then by name.
-/

namespace Caretaker

/-- Kinds with the same name are the same kind. -/
theorem Kind.name_injective {left right : Kind} (same : left.name = right.name) : left = right := by
  cases left with
  | parent left => cases right with
    | parent right => cases left <;> cases right <;> first | rfl | exact absurd same (by decide)
    | child right => cases left <;> cases right <;> exact absurd same (by decide)
    | pod => cases left <;> exact absurd same (by decide)
    | storageClass => cases left <;> exact absurd same (by decide)
  | child left => cases right with
    | parent right => cases left <;> cases right <;> exact absurd same (by decide)
    | child right => cases left <;> cases right <;> first | rfl | exact absurd same (by decide)
    | pod => cases left <;> exact absurd same (by decide)
    | storageClass => cases left <;> exact absurd same (by decide)
  | pod => cases right with
    | parent right => cases right <;> exact absurd same (by decide)
    | child right => cases right <;> exact absurd same (by decide)
    | pod => rfl
    | storageClass => exact absurd same (by decide)
  | storageClass => cases right with
    | parent right => cases right <;> exact absurd same (by decide)
    | child right => cases right <;> exact absurd same (by decide)
    | pod => exact absurd same (by decide)
    | storageClass => rfl

/-- The place of an object in a store. -/
structure Key where
  kind : Kind
  ns : String
  name : String
  deriving DecidableEq, Repr

namespace Key

/-- The names that order the places of a store. -/
def path (key : Key) : List String := [key.kind.name, key.ns, key.name]

theorem path_injective {left right : Key} (same : left.path = right.path) : left = right := by
  obtain ⟨kind, ns, name⟩ := left
  obtain ⟨kind', ns', name'⟩ := right
  simp only [path, List.cons.injEq, and_true] at same
  obtain ⟨kinds, rfl, rfl⟩ := same
  cases Kind.name_injective kinds
  rfl

instance : LT Key := ⟨fun left right => left.path < right.path⟩

instance : LE Key := ⟨fun left right => ¬ right.path < left.path⟩

instance : DecidableLT Key := fun left right => inferInstanceAs (Decidable (left.path < right.path))

instance : Std.IsLinearOrder Key where
  le_refl key := List.le_refl key.path
  le_trans _ _ _ below above := List.le_trans below above
  le_antisymm _ _ below above := path_injective (List.le_antisymm below above)
  le_total left right := List.le_total left.path right.path

instance : Std.LawfulOrderLT Key where
  lt_iff _ _ :=
    ⟨fun less => ⟨List.lt_asymm less, fun above => above less⟩,
      fun both => Decidable.not_not.mp both.2⟩

/-- The place of an object; absent names are empty. -/
def ofObject {kind : Kind} (object : Object kind) : Key := ⟨kind, object.nsD, object.nameD⟩

/-- The place that an object is written to, which its metadata must name in full. -/
def forWriting {kind : Kind} (object : Object kind) : Except Error Key := do
  let ns ← match object.metadata.ns with
    | some ns => .ok ns
    | none => .error (.missingField "metadata.namespace")
  let name ← match object.metadata.name with
    | some name => .ok name
    | none => .error (.missingField "metadata.name")
  return ⟨kind, ns, name⟩

end Key

end Caretaker
