/-!
# Digits

The value of a digit (`Digit.value?`), the number that digits to a base stand for
(`Digit.number?`), and the number that decimal digits stand for (`Digit.decimal`), which reads what
printing a number wrote (`Digit.decimal_toList_toString`).  Digits end where another character
stands (`Digit.takeWhile_digits`).
-/

namespace Caretaker

namespace Digit

/-- The value of a digit; the letters up to F stand for ten to fifteen, in either case. -/
def value? (char : Char) : Option Nat :=
  if char.isDigit then some (char.toNat - '0'.toNat)
  else if 'a' ≤ char ∧ char ≤ 'f' then some (char.toNat - 'a'.toNat + 10)
  else if 'A' ≤ char ∧ char ≤ 'F' then some (char.toNat - 'A'.toNat + 10)
  else none

/-- The number that digits to a base stand for; there must be one. -/
def number? (base : Nat) (digits : List Char) : Option Nat :=
  if digits.isEmpty then none
  else
    digits.foldlM (fun value digit => do
      let next ← value? digit
      if next < base then some (value * base + next) else none) 0

/-- The number that decimal digits stand for. -/
def decimal (digits : List Char) : Nat := Nat.ofDigitChars 10 digits 0

/-- Printing a number and reading its digits gives the number back. -/
theorem decimal_toList_toString (number : Nat) : decimal (toString number).toList = number := by
  simp [decimal]

/-- All digits at the start are taken if no digit follows them. -/
theorem takeWhile_digits {digits rest : List Char} (all : ∀ char ∈ digits, char.isDigit = true)
    (noDigit : rest.head?.any Char.isDigit = false) :
    (digits ++ rest).takeWhile Char.isDigit = digits := by
  rw [List.takeWhile_append_of_pos all]
  cases rest with
  | nil => rw [List.takeWhile_nil, List.append_nil]
  | cons char more =>
    have other : ¬char.isDigit = true := Bool.eq_false_iff.mp noDigit
    rw [List.takeWhile_cons_of_neg other, List.append_nil]

end Digit

end Caretaker
