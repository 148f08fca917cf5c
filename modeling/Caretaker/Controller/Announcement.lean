import Caretaker.Converge

/-!
# Announcements

What a controller tells about a pass over a parent: every child that the pass created, or why it
failed.  Updates happen in every pass and are not announced.
-/

namespace Caretaker

/-- Whether an announcement is good news. -/
inductive Tone where
  | normal
  | warning
  deriving DecidableEq, Repr

/-- The name of a tone. -/
def Tone.name : Tone → String
  | normal => "Normal"
  | warning => "Warning"

/-- The topic of an announcement; announcements of one topic are told together. -/
structure Topic where
  tone : Tone
  reason : String
  action : String
  deriving DecidableEq, Repr

/-- Something that a controller tells about a parent. -/
structure Announcement where
  topic : Topic
  note : String
  deriving DecidableEq, Repr

namespace Announcement

/-- What all announcements are about. -/
def action : String := "Reconcile"

/-- A child was created. -/
def created (change : Change) : Announcement where
  topic := ⟨.normal, "Created", action⟩
  note := "Created " ++ change.kind.name ++ " " ++ change.name

/-- A pass failed. -/
def failed (error : Error) : Announcement where
  topic := ⟨.warning, "ReconcileFailed", action⟩
  note := error.message

/-- The announcements of a pass. -/
def ofPass : Except Error (List Change) → List Announcement
  | .ok changes => (changes.filter fun change => change.outcome = .created).map created
  | .error error => [failed error]

end Announcement

end Caretaker
