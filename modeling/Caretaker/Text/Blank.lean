/-!
# Blank text

The characters that Unicode gives the property `White_Space`.  A text of such characters only is
blank; the zero width space is none of them.
-/

namespace Caretaker

/-- Whether a character has the property `White_Space`. -/
def isWhiteSpace (c : Char) : Bool :=
  let code := c.toNat
  (0x9 ≤ code && code ≤ 0xD) || code = 0x20 || code = 0x85 || code = 0xA0 || code = 0x1680 ||
    (0x2000 ≤ code && code ≤ 0x200A) || code = 0x2028 || code = 0x2029 || code = 0x202F ||
    code = 0x205F || code = 0x3000

/-- Whether a text has no character but white space. -/
def isBlankText (text : String) : Bool := text.toList.all isWhiteSpace

theorem isBlankText_eq_false_iff {text : String} :
    isBlankText text = false ↔ ∃ char ∈ text.toList, isWhiteSpace char = false := by
  simp [isBlankText]

end Caretaker
