import Caretaker.Merge
import Caretaker.Ownership
import Caretaker.Store.Key
import Caretaker.Store.Program

/-!
# Converging a child

`converge` brings one child into the state that its parent asks for.  A child that is not there is
created from the desired object.  A child that is there is replaced by the live object with the
mutable fields of the desired one, unless its kind is only created.  In both cases the owner is
attached first, so a child that another owner controls is never written.
-/

namespace Caretaker

/-- What became of a child. -/
inductive Outcome where
  | created
  | updated
  /-- The child is there and its kind is only created. -/
  | unchanged
  deriving DecidableEq, Repr

/-- The name of an outcome. -/
def Outcome.name : Outcome → String
  | created => "Created"
  | updated => "Updated"
  | unchanged => "Unchanged"

/-- What became of which child. -/
structure Change where
  outcome : Outcome
  kind : ChildKind
  name : String
  deriving DecidableEq, Repr

/-- The text of a change. -/
def Change.text (change : Change) : String :=
  " ".intercalate [change.outcome.name, change.kind.name, change.name]

/-- A child after it was converged. -/
structure Converged (kind : ChildKind) where
  outcome : Outcome
  object : Child kind

/-- The change that a converged child stands for. -/
def Converged.change {kind : ChildKind} (converged : Converged kind) : Change :=
  ⟨converged.outcome, kind, converged.object.nameD⟩

variable {kind : ChildKind}

/-- The object that replaces a live child: the live one with the mutable fields of the desired one,
owned by the parent. -/
def replacement (owner : OwnerReference) (live desired : Child kind) :
    Except Error (Child kind) := do
  (← merge live desired).attachOwner owner

/-- Create a child that is not there. -/
def createChild (owner : OwnerReference) (desired : Child kind) : Program (Converged kind) := do
  let child ← Program.ofExcept (desired.attachOwner owner)
  let stored ← Program.perform (.create (.child kind) child)
  return ⟨.created, stored⟩

/-- Go on with a child that is there. -/
def updateChild (owner : OwnerReference) (live desired : Child kind) :
    Program (Converged kind) := do
  if kind.isCreateOnly then
    return ⟨.unchanged, live⟩
  else
    let child ← Program.ofExcept (replacement owner live desired)
    let stored ← Program.perform (.update (.child kind) child)
    return ⟨.updated, stored⟩

/-- Make the child in the place of the desired object match it.  An answer to the look-up other than
that nothing is there ends the program, and nothing is written. -/
def converge (owner : OwnerReference) (desired : Child kind) : Program (Converged kind) := do
  let key ← Program.ofExcept (Key.forWriting desired)
  match ← Program.attempt (.get (.child kind) key.ns key.name) with
  | .ok live => updateChild owner live desired
  | .error error => if error.isNotFound then createChild owner desired else Program.fail error

end Caretaker
