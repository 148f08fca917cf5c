import Caretaker.Json.Basic

/-!
# Merge patches

A merge patch that is an object changes the members it names and removes those it gives as null;
any other patch takes the place of the whole document.
-/

namespace Caretaker

namespace Json

mutual

/-- The document after a merge patch. -/
def mergePatch (target : Json) : Json → Json
  | .object patch => .object (mergeMembers (target.members?.getD []) patch)
  | .null => .null
  | .bool value => .bool value
  | .int value => .int value
  | .decimal value => .decimal value
  | .text value => .text value
  | .array items => .array items

/-- The members of an object after the members of a patch. -/
def mergeMembers (target : Members) : List (String × Json) → Members
  | [] => target
  | (name, value) :: rest =>
    match value with
    | .null => mergeMembers (Assoc.erase target name) rest
    | _ =>
      mergeMembers
        (Assoc.insert target name (mergePatch ((Assoc.get? target name).getD .null) value)) rest

end

end Json

end Caretaker
