import Caretaker.Error
import Caretaker.Object

/-!
# Ownership

A parent refers to itself as the controller of its children (`Object.controllerReference`), and an
object takes such a reference unless another owner controls it (`attachOwner`).  A reference to the
same owner is replaced, so an object has at most one.
-/

namespace Caretaker

namespace Object

variable {kind : Kind}

/-- A reference to an object as the controller of others.  An object without a name or a uid cannot
own. -/
def controllerReference (object : Object kind) : Except Error OwnerReference :=
  match object.metadata.name, object.metadata.uid with
  | some name, some uid =>
    .ok {
      apiVersion := kind.apiVersion
      kind := kind.name
      name := name
      uid := uid
      controller := some true }
  | _, _ => .error (.noUid kind object.nameD)

end Object

/-- The first reference to a controller other than an owner. -/
def foreignController? (references : List OwnerReference) (owner : OwnerReference) :
    Option OwnerReference :=
  references.find? fun reference => reference.isController && reference.uid ≠ owner.uid

/-- The references of an object after an owner is attached: last, and the only one to it. -/
def attachReference (references : List OwnerReference) (owner : OwnerReference) :
    Except Error (List OwnerReference) :=
  match foreignController? references owner with
  | some other => .error (.foreignController other.kind other.name)
  | none => .ok (references.filter (fun reference => reference.uid ≠ owner.uid) ++ [owner])

namespace Object

variable {kind : Kind}

/-- The references of an object to its owners. -/
def ownerReferences (object : Object kind) : List OwnerReference :=
  object.metadata.ownerReferences.getD []

/-- An object after an owner is attached to it. -/
def attachOwner (object : Object kind) (owner : OwnerReference) : Except Error (Object kind) := do
  let references ← attachReference object.ownerReferences owner
  return { object with metadata := { object.metadata with ownerReferences := some references } }

end Object

end Caretaker
