/-!
# Base64 texts

A base64 text is made of groups of four characters.  The last group may end in one or two padding
marks; the bits that its last digit does not need are zero.
-/

namespace Caretaker

namespace Base64

/-- The value of a digit. -/
def digit? (c : Char) : Option Nat :=
  if 'A' ≤ c ∧ c ≤ 'Z' then some (c.toNat - 'A'.toNat)
  else if 'a' ≤ c ∧ c ≤ 'z' then some (c.toNat - 'a'.toNat + 26)
  else if '0' ≤ c ∧ c ≤ '9' then some (c.toNat - '0'.toNat + 52)
  else if c = '+' then some 62
  else if c = '/' then some 63
  else none

/-- Whether a character is a digit whose value is a multiple of `unit`. -/
def isMultiple (unit : Nat) (c : Char) : Bool := (digit? c).any fun value => value % unit = 0

/-- Whether a list of characters is a base64 text. -/
def isValid : List Char → Bool
  | [] => true
  | [a, b, '=', '='] => isMultiple 1 a && isMultiple 16 b
  | [a, b, c, '='] => isMultiple 1 a && isMultiple 1 b && isMultiple 4 c
  | a :: b :: c :: d :: rest =>
    isMultiple 1 a && isMultiple 1 b && isMultiple 1 c && isMultiple 1 d && isValid rest
  | _ => false

end Base64

end Caretaker
