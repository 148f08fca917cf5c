import Caretaker.Instant

/-!
# Instants are read back as they were written

The text of an instant has a number of a fixed width, or one that ends before a mark, in each of its
parts, and each is read back (`Instant.number?_twoDigits`, `Instant.year?_yearText`).  So is the
whole (`Instant.parse?_text`): reading the text of an instant and writing it again changes nothing.
-/

namespace Caretaker

theorem Date.daysOfMonth_le (year : Int) (month : Nat) : daysOfMonth year month ≤ 31 := by
  unfold daysOfMonth
  split
  · split <;> decide
  · split <;> decide

namespace Instant

theorem isDigit_twoDigits {number : Nat} (small : number < 100) :
    ∀ char ∈ twoDigits number, char.isDigit = true := by
  simp only [twoDigits, List.forall_mem_cons, Nat.isDigit_digitChar]
  exact ⟨decide_eq_true (by omega), decide_eq_true (by omega), List.forall_mem_nil _⟩

theorem decimal_twoDigits {number : Nat} (small : number < 100) :
    Digit.decimal (twoDigits number) = number := by
  have tens : number / 10 < 10 := by omega
  have ones : number % 10 < 10 := by omega
  rw [Digit.decimal, twoDigits, Nat.ofDigitChars_cons_digitChar_of_lt_ten tens,
    Nat.ofDigitChars_cons_digitChar_of_lt_ten ones, Nat.ofDigitChars_nil]
  omega

theorem isDigit_fourDigits (number : Nat) : ∀ char ∈ fourDigits number, char.isDigit = true := by
  unfold fourDigits
  split
  · intro char member
    rcases List.mem_append.mp member with first | second
    · exact isDigit_twoDigits (by omega) char first
    · exact isDigit_twoDigits (by omega) char second
  · intro char member
    rw [Nat.toString_eq_repr, Nat.toList_repr] at member
    exact Nat.isDigit_of_mem_toDigits (by decide) (by decide) member

theorem decimal_fourDigits (number : Nat) : Digit.decimal (fourDigits number) = number := by
  unfold fourDigits
  split
  · have first : Digit.decimal (twoDigits (number / 100)) = number / 100 :=
      decimal_twoDigits (by omega)
    have second : (number % 100) / 10 < 10 ∧ (number % 100) % 10 < 10 := by omega
    rw [Digit.decimal] at first ⊢
    rw [Nat.ofDigitChars_append, first, twoDigits,
      Nat.ofDigitChars_cons_digitChar_of_lt_ten second.1,
      Nat.ofDigitChars_cons_digitChar_of_lt_ten second.2, Nat.ofDigitChars_nil]
    omega
  · exact Digit.decimal_toList_toString number

theorem fourDigits_ne_nil (number : Nat) : fourDigits number ≠ [] := by
  unfold fourDigits
  split
  · exact nofun
  · rw [Nat.toString_eq_repr, Nat.toList_repr]
    exact Nat.toDigits_ne_nil

theorem length_fourDigits {number : Nat} (small : number < 10000) :
    (fourDigits number).length = 4 := by
  rw [fourDigits, if_pos small]
  rfl

theorem isWhiteSpace_of_isDigit {char : Char} (digit : char.isDigit = true) :
    isWhiteSpace char = false := by
  simp only [Char.isDigit, Bool.and_eq_true, decide_eq_true_eq, ge_iff_le,
    UInt32.le_iff_toNat_le] at digit
  have code : char.toNat = char.val.toNat := rfl
  have least : (48 : Nat) ≤ char.val.toNat := digit.1
  have most : char.val.toNat ≤ 57 := digit.2
  simp only [isWhiteSpace, code, Bool.or_eq_false_iff, Bool.and_eq_false_iff, decide_eq_false_iff_not]
  omega

theorem trimStart_cons {char : Char} (visible : isWhiteSpace char = false) (rest : List Char) :
    trimStart (char :: rest) = char :: rest := by
  rw [trimStart, List.dropWhile_cons_of_neg (ne_true_of_eq_false visible)]

theorem trimStart_digits {digits : List Char} (all : ∀ char ∈ digits, char.isDigit = true)
    (some : digits ≠ []) (rest : List Char) : trimStart (digits ++ rest) = digits ++ rest := by
  cases digits with
  | nil => exact absurd rfl some
  | cons first more =>
    exact trimStart_cons (isWhiteSpace_of_isDigit (all first List.mem_cons_self)) _

/-- Digits are read as far as the width allows, or up to another character. -/
theorem digits?_append {digits rest : List Char} {width : Nat}
    (all : ∀ char ∈ digits, char.isDigit = true) (some : digits ≠ [])
    (ends : digits.length = width ∨
      digits.length ≤ width ∧ rest.head?.any Char.isDigit = false) :
    digits? width (digits ++ rest) = .some (Digit.decimal digits, rest) := by
  have taken : ((digits ++ rest).take width).takeWhile Char.isDigit = digits := by
    rcases ends with full | ⟨fits, noDigit⟩
    · have whole := Digit.takeWhile_digits all (show ([] : List Char).head?.any _ = false from rfl)
      rw [List.take_left' full]
      rwa [List.append_nil] at whole
    · rw [List.take_append, List.take_of_length_le fits]
      refine Digit.takeWhile_digits all ?_
      rw [List.head?_take]
      split
      · rfl
      · exact noDigit
  have given : digits.isEmpty = false := List.isEmpty_eq_false_iff.mpr some
  simp only [digits?, taken, given, List.drop_left]
  rfl

theorem number?_twoDigits {number : Nat} (small : number < 100) (rest : List Char) :
    number? 2 (twoDigits number ++ rest) = some (number, rest) := by
  have all := isDigit_twoDigits small
  have read : digits? 2 (twoDigits number ++ rest) = some (Digit.decimal (twoDigits number), rest) :=
    digits?_append all nofun (Or.inl rfl)
  rw [number?, trimStart_digits all nofun, read, decimal_twoDigits small]

theorem mark?_cons {mark : Char} (visible : isWhiteSpace mark = false) (rest : List Char) :
    mark? mark (mark :: rest) = some rest := by
  rw [mark?, trimStart_cons visible]
  exact if_pos rfl

/-- A year without a sign begins with a digit. -/
theorem year?_of_isDigit {first : Char} (digit : first.isDigit = true) (rest : List Char) :
    year? (first :: rest) = (digits? 4 (first :: rest)).map fun read => ((read.1 : Int), read.2) := by
  rw [year?, trimStart_cons (isWhiteSpace_of_isDigit digit)]
  split
  · next same =>
    cases same
    cases digit
  · next same =>
    cases same
    cases digit
  · rfl

theorem year?_yearText (year : Int) {rest : List Char}
    (noDigit : rest.head?.any Char.isDigit = false) :
    year? (yearText year ++ rest) = some (year, rest) := by
  have all := isDigit_fourDigits year.natAbs
  have some := fourDigits_ne_nil year.natAbs
  have signed : digits? (fourDigits year.natAbs ++ rest).length (fourDigits year.natAbs ++ rest) =
      .some (year.natAbs, rest) := by
    rw [digits?_append all some (Or.inr ⟨by simp, noDigit⟩), decimal_fourDigits]
  unfold yearText
  split
  case isTrue negative =>
    rw [year?, List.cons_append, trimStart_cons (by decide)]
    simp only [signed, Option.map_some]
    rw [show -(year.natAbs : Int) = year by omega]
  case isFalse positive =>
    split
    case isTrue small =>
      obtain ⟨first, more, begins⟩ := List.exists_cons_of_ne_nil some
      have digit : first.isDigit = true := all first (begins ▸ List.mem_cons_self)
      have read : digits? 4 (fourDigits year.natAbs ++ rest) = .some (year.natAbs, rest) := by
        rw [digits?_append all some (Or.inl (length_fourDigits (by omega))), decimal_fourDigits]
      rw [begins, List.cons_append] at read ⊢
      rw [year?_of_isDigit digit, read, Option.map_some]
      rw [show (year.natAbs : Int) = year by omega]
    case isFalse =>
      rw [year?, List.cons_append, trimStart_cons (by decide)]
      simp only [signed, Option.map_some]
      rw [show (year.natAbs : Int) = year by omega]

/-- A local time that is not ahead of universal time is the instant itself. -/
theorem ofLocal?_zero (instant : Instant) :
    ofLocal? instant.date instant.minute instant.second 0 = some instant := by
  have whole : of? instant.date instant.minute instant.second = some instant :=
    dif_pos ⟨instant.date_isValid, instant.minute_lt, instant.second_le⟩
  have least : ¬(instant.minute : Int) < 0 := by omega
  have most : (instant.minute : Int) < 24 * 60 := by
    have lt := instant.minute_lt
    omega
  rw [ofLocal?, whole]
  simp only [Option.bind_eq_bind, Option.bind_some, Int.sub_zero, if_neg least, if_pos most]
  exact whole

/-- Reading the text of an instant gives the instant back. -/
theorem parse?_text (instant : Instant) : parse? instant.text = some instant := by
  obtain ⟨monthSmall, daySmall⟩ : instant.date.month < 100 ∧ instant.date.day < 100 := by
    have valid := instant.date_isValid
    simp only [Date.isValid, Bool.and_eq_true, decide_eq_true_eq] at valid
    have days := Date.daysOfMonth_le instant.date.year instant.date.month
    omega
  have minute := instant.minute_lt
  have second := instant.second_le
  have hours : instant.minute / 60 < 24 := by omega
  have minutes : instant.minute % 60 < 60 := by omega
  have whole : instant.minute / 60 * 60 + instant.minute % 60 = instant.minute := by omega
  have separated (rest : List Char) : separator? ('T' :: rest) = some rest := rfl
  have noFraction : skipFraction? ['Z'] = some ['Z'] := rfl
  have zone : zone? (trimStart ['Z']) = some (0, []) := rfl
  have ends : (trimStart []).isEmpty = true := rfl
  simp only [parse?, text, String.toList_ofList, List.append_assoc, List.cons_append,
    Option.bind_eq_bind]
  rw [year?_yearText _ rfl, Option.bind_some, mark?_cons (by decide), Option.bind_some,
    number?_twoDigits monthSmall, Option.bind_some, mark?_cons (by decide), Option.bind_some,
    number?_twoDigits daySmall, Option.bind_some, separated, Option.bind_some,
    number?_twoDigits (by omega), Option.bind_some, mark?_cons (by decide), Option.bind_some,
    number?_twoDigits (by omega), Option.bind_some, mark?_cons (by decide), Option.bind_some,
    number?_twoDigits (by omega), Option.bind_some, noFraction, Option.bind_some, zone,
    Option.bind_some]
  simp only [decide_eq_true hours, decide_eq_true minutes, ends, whole, Bool.and_self, if_true]
  exact ofLocal?_zero instant

/-- A time of another zone is written in universal time, without the fraction of a second. -/
example : (parse? "2024-03-01T01:30:07.5+02:00").map text = some "2024-02-29T23:30:07Z" := rfl

end Instant

end Caretaker
