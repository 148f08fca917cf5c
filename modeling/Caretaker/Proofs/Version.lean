import Caretaker.Store.Memory

/-!
# Versions of objects

A store counts the version of an object up with every write and lets everything else that it does
not write alone.  `Object.unversioned` is what remains of an object when its version is left out.
-/

namespace Caretaker

/-- The version after a given one; after the last number of 64 bits comes zero. -/
def nextVersion (version : String) : String := toString ((versionNumber version + 1) % wordSize)

namespace Object

variable {kind : Kind}

/-- The version of an object, empty if it has none. -/
def versionD (object : Object kind) : String := object.metadata.resourceVersion.getD ""

/-- The uid of an object, empty if it has none. -/
def uidD (object : Object kind) : String := object.metadata.uid.getD ""

/-- The object with another version, or with none. -/
def withVersion (object : Object kind) (version : Option String) : Object kind :=
  { object with metadata := { object.metadata with resourceVersion := version } }

/-- The object without its version. -/
def unversioned (object : Object kind) : Object kind := object.withVersion none

@[simp]
theorem withVersion_unversioned (object : Object kind) (version : Option String) :
    object.unversioned.withVersion version = object.withVersion version := rfl

theorem withVersion_self (object : Object kind) :
    object.withVersion object.metadata.resourceVersion = object := rfl

theorem unversioned_of_none {object : Object kind}
    (none : object.metadata.resourceVersion = none) : object.unversioned = object := by
  rw [unversioned, ← none, withVersion_self]

/-- The object with its version counted up. -/
def bumped (object : Object kind) : Object kind :=
  object.withVersion (some (nextVersion object.versionD))

/-- The object with the given uid. -/
def withUid (object : Object kind) (uid : String) : Object kind :=
  { object with metadata := { object.metadata with uid := some uid } }

/-- The object as a store keeps it after its creation: with a uid and the first version. -/
def numbered (object : Object kind) (uid : String) : Object kind :=
  (object.withUid uid).withVersion (some "1")

theorem withUid_uidD {object : Object kind} (given : object.metadata.uid.isSome) :
    object.withUid object.uidD = object := by
  obtain ⟨uid, same⟩ := Option.isSome_iff_exists.mp given
  obtain ⟨metadata, body⟩ := object
  simp only [withUid, uidD]
  congr 1
  cases metadata
  cases same
  rfl

end Object

end Caretaker
