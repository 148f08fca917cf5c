import Caretaker.KeyMap

/-!
# Selectors

A map of labels selects the objects that carry every label of it.  As text it is the list of its
pairs in the order of their keys.
-/

namespace Caretaker

namespace Selector

/-- The text of a selector. -/
def text (labels : LabelMap) : String :=
  ",".intercalate (labels.entries.map fun entry => entry.1 ++ "=" ++ entry.2)

end Selector

end Caretaker
