import Caretaker.KeyMap

/-!
# Diagnostics

How many passes each controller made and how many of them failed.
-/

namespace Caretaker

/-- The passes of one controller. -/
structure PassCount where
  reconciles : Nat := 0
  failures : Nat := 0
  deriving DecidableEq, Inhabited, Repr

namespace PassCount

/-- The count after one more pass. -/
def record (count : PassCount) (succeeded : Bool) : PassCount where
  reconciles := count.reconciles + 1
  failures := if succeeded then count.failures else count.failures + 1

end PassCount

/-- The passes of every controller that made one. -/
abbrev Diagnostics := KeyMap String PassCount

namespace Diagnostics

/-- The counts after one more pass of a controller. -/
def record (diagnostics : Diagnostics) (reporter : String) (succeeded : Bool) : Diagnostics :=
  KeyMap.insert diagnostics reporter
    (((KeyMap.get? diagnostics reporter).getD {}).record succeeded)

end Diagnostics

end Caretaker
