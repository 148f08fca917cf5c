import Caretaker.Allotment
import Caretaker.Proofs.Ascii
import Caretaker.Text.Digit

/-!
# The grammar of quantities

A quantity is a sign, a number and a suffix, one after the other (`IsQuantity`).  The scanner finds
the longest number at the start of any text (`Parts.Longest`, `numeral_of_longest`), so it accepts
exactly the texts of the grammar and always cuts them between two characters.  That settles what a
container is allotted (`Allotment.of_grammar`): each of its four amounts is a quantity, the one that
is asked for or else its default.
-/

namespace Caretaker

namespace Quantity

/-! ### The grammar -/

/-- Whether a text is made of digits and at most one point, with at least one digit. -/
structure IsNumber (text : String) : Prop where
  written : ∀ char ∈ text.toList, char.isDigit ∨ char = '.'
  onePoint : text.toList.count '.' ≤ 1
  someDigit : ∃ char ∈ text.toList, char.isDigit

/-- The signs, which may be missing. -/
def signs : List String := ["", "+", "-"]

/-- The decimal units. -/
def decimalUnits : List String := ["n", "u", "m", "k", "M", "G", "T", "P", "E"]

/-- The letters of the binary units. -/
def binaryLetters : List String := ["K", "M", "G", "T", "P", "E"]

/-- What may follow a number: nothing, a decimal unit, a binary unit or an exponent. -/
inductive EndsNumber : String → Prop
  | nothing : EndsNumber ""
  | decimal {unit : String} (known : unit ∈ decimalUnits) : EndsNumber unit
  | binary {letter : String} (known : letter ∈ binaryLetters) : EndsNumber (letter ++ "i")
  | exponent {mark sign digits : String} (marked : mark ∈ ["e", "E"]) (signed : sign ∈ signs)
    (some : digits ≠ "") (only : ∀ char ∈ digits.toList, char.isDigit) :
    EndsNumber (mark ++ sign ++ digits)

/-- Whether a text is a quantity: a sign, which may be missing, a number and a suffix. -/
inductive IsQuantity : String → Prop
  | parts {sign number suffix : String} (signed : sign ∈ signs) (numbered : IsNumber number)
    (ends : EndsNumber suffix) : IsQuantity (sign ++ number ++ suffix)

/-! ### Finding the number -/

/-- Whether a character is a sign. -/
def isSign (char : Char) : Bool := char = '+' || char = '-'

/-- Whether a character is a decimal point. -/
def isPoint (char : Char) : Bool := char = '.'

theorem testsAscii_digit : TestsAscii isDigitByte Char.isDigit := .digit

theorem testsAscii_sign : TestsAscii isSignByte isSign :=
  (TestsAscii.eq '+' (by decide)).or (TestsAscii.eq '-' (by decide))

theorem testsAscii_point : TestsAscii isPointByte isPoint :=
  TestsAscii.eq '.' (by decide)

/-- The parts of a number: the digits after a point are missing if there is no point. -/
structure Parts where
  sign : String
  whole : List Char
  decimals : Option (List Char)

namespace Parts

/-- The point and the digits after it. -/
def fraction (parts : Parts) : List Char :=
  match parts.decimals with
  | some decimals => '.' :: decimals
  | none => []

/-- The characters of a number. -/
def chars (parts : Parts) : List Char := parts.sign.toList ++ (parts.whole ++ parts.fraction)

/-- How many digits a number has. -/
def digits (parts : Parts) : Nat := parts.whole.length + (parts.decimals.getD []).length

/-- Whether a number is as long as it can be in front of what follows. -/
structure Longest (parts : Parts) (rest : List Char) : Prop where
  signed : parts.sign ∈ signs
  unsigned : parts.sign = "" → (parts.whole ++ parts.fraction ++ rest).head?.any isSign = false
  whole : ∀ char ∈ parts.whole, char.isDigit = true
  decimals : ∀ digits ∈ parts.decimals, ∀ char ∈ digits, char.isDigit = true
  noDigit : rest.head?.any Char.isDigit = false
  noPoint : parts.decimals = none → rest.head?.any isPoint = false

end Parts

theorem digitsFrom_append (read rest : List Char) :
    digitsFrom (utf8 (read ++ rest)) (utf8 read).length =
      (rest.takeWhile Char.isDigit).length := by
  rw [digitsFrom, utf8_append, List.drop_left, testsAscii_digit.takeWhile_utf8,
    testsAscii_digit.length_utf8 (List.all_eq_true.mp List.all_takeWhile)]

theorem getElem?_utf8_append {ofByte : UInt8 → Bool} {ofChar : Char → Bool}
    (tests : TestsAscii ofByte ofChar) (read rest : List Char) :
    (utf8 (read ++ rest))[(utf8 read).length]?.any ofByte = rest.head?.any ofChar := by
  rw [← tests.head?_utf8, utf8_append, List.getElem?_append_right (Nat.le_refl _), Nat.sub_self,
    List.head?_eq_getElem?]

theorem sign_cases {sign : String} (signed : sign ∈ signs) :
    sign = "" ∨ sign = "+" ∨ sign = "-" := by
  simpa [signs] using signed

/-- A sign is one byte, and no sign is none. -/
theorem start_of_longest {parts : Parts} {rest : List Char} (longest : parts.Longest rest) :
    (if (utf8 (parts.sign.toList ++ (parts.whole ++ parts.fraction ++ rest))).head?.any isSignByte
      then 1 else 0) = (utf8 parts.sign.toList).length := by
  rw [testsAscii_sign.head?_utf8]
  rcases sign_cases longest.signed with missing | plus | minus
  · rw [missing, String.toList_empty, List.nil_append, longest.unsigned missing]
    rfl
  · rw [plus]
    rfl
  · rw [minus]
    rfl

/-- The scanner comes to the end of the whole digits, and goes on if there is a point. -/
theorem numeral_of_whole {parts : Parts} {rest : List Char} (longest : parts.Longest rest) :
    numeral (utf8 (parts.chars ++ rest)) =
      let point := (utf8 (parts.sign.toList ++ parts.whole)).length
      if (parts.fraction ++ rest).head?.any isPoint then
        let decimals := digitsFrom (utf8 (parts.chars ++ rest)) (point + 1)
        ⟨point + 1 + decimals, parts.whole.length + decimals⟩
      else ⟨point, parts.whole.length⟩ := by
  have fromSign : parts.chars ++ rest =
      parts.sign.toList ++ (parts.whole ++ parts.fraction ++ rest) := by
    rw [Parts.chars, List.append_assoc]
  have fromPoint : parts.chars ++ rest =
      parts.sign.toList ++ parts.whole ++ (parts.fraction ++ rest) := by
    simp only [Parts.chars, List.append_assoc]
  have noDigit : (parts.fraction ++ rest).head?.any Char.isDigit = false := by
    rw [Parts.fraction]
    split
    · rfl
    · exact longest.noDigit
  have start := start_of_longest longest
  have whole : digitsFrom (utf8 (parts.chars ++ rest)) (utf8 parts.sign.toList).length =
      parts.whole.length := by
    rw [fromSign, digitsFrom_append, List.append_assoc, Digit.takeWhile_digits longest.whole noDigit]
  have stop : (utf8 parts.sign.toList).length + parts.whole.length =
      (utf8 (parts.sign.toList ++ parts.whole)).length := by
    rw [utf8_append, List.length_append, testsAscii_digit.length_utf8 longest.whole]
  have point := getElem?_utf8_append testsAscii_point (parts.sign.toList ++ parts.whole)
    (parts.fraction ++ rest)
  rw [← fromSign] at start
  rw [← fromPoint] at point
  simp only [numeral, start, whole, stop, point]

/-- The scanner finds the longest number at the start of a text. -/
theorem numeral_of_longest {parts : Parts} {rest : List Char} (longest : parts.Longest rest) :
    numeral (utf8 (parts.chars ++ rest)) = ⟨(utf8 parts.chars).length, parts.digits⟩ := by
  rw [numeral_of_whole longest]
  obtain ⟨sign, whole, decimals⟩ := parts
  cases decimals with
  | none =>
    have stops : rest.head?.any isPoint = false := longest.noPoint rfl
    simp only [Parts.chars, Parts.fraction, Parts.digits, List.nil_append, List.append_nil, stops,
      Bool.false_eq_true, if_false, Option.getD_none, List.length_nil, Nat.add_zero]
  | some decimals =>
    have digits := longest.decimals decimals rfl
    have pointStop : (utf8 (sign.toList ++ whole ++ ['.'])).length =
        (utf8 (sign.toList ++ whole)).length + 1 := by
      rw [utf8_append, List.length_append]
      rfl
    have read : digitsFrom (utf8 (sign.toList ++ (whole ++ '.' :: decimals) ++ rest))
        ((utf8 (sign.toList ++ whole)).length + 1) = decimals.length := by
      have split : sign.toList ++ (whole ++ '.' :: decimals) ++ rest =
          sign.toList ++ whole ++ ['.'] ++ (decimals ++ rest) := by simp
      rw [split, ← pointStop, digitsFrom_append, Digit.takeWhile_digits digits longest.noDigit]
    have stop : (utf8 (sign.toList ++ (whole ++ '.' :: decimals))).length =
        (utf8 (sign.toList ++ whole)).length + 1 + decimals.length := by
      have split : sign.toList ++ (whole ++ '.' :: decimals) =
          sign.toList ++ whole ++ ['.'] ++ decimals := by simp
      rw [split, utf8_append, List.length_append, pointStop, testsAscii_digit.length_utf8 digits]
    have follows : ('.' :: decimals ++ rest).head?.any isPoint = true := rfl
    simp only [Parts.chars, Parts.fraction, Parts.digits, follows, if_true, read, stop,
      Option.getD_some]

/-! ### Every text begins with a number, if only with an empty one -/

/-- A list of characters as digits and what follows them. -/
theorem exists_digits (chars : List Char) : ∃ digits rest, chars = digits ++ rest ∧
    (∀ char ∈ digits, char.isDigit = true) ∧ rest.head?.any Char.isDigit = false := by
  refine ⟨chars.takeWhile Char.isDigit, chars.dropWhile Char.isDigit,
    List.takeWhile_append_dropWhile.symm, List.all_eq_true.mp List.all_takeWhile, ?_⟩
  have stops := List.head?_dropWhile_not Char.isDigit chars
  cases head : (chars.dropWhile Char.isDigit).head? with
  | none => rfl
  | some char =>
    rw [head] at stops
    exact stops

/-- A list of characters as a sign, which may be missing, and what is left without it. -/
theorem exists_unsigned (chars : List Char) :
    ∃ sign ∈ signs, chars = sign.toList ++ unsigned chars ∧
      (sign = "" → (unsigned chars).head?.any isSign = false) := by
  unfold unsigned
  split
  · exact ⟨"+", by decide, rfl, nofun⟩
  · exact ⟨"-", by decide, rfl, nofun⟩
  · next noPlus noMinus =>
    refine ⟨"", by decide, rfl, fun _ => ?_⟩
    cases chars with
    | nil => rfl
    | cons char rest =>
      have notPlus : char ≠ '+' := fun same => noPlus rest (same ▸ rfl)
      have notMinus : char ≠ '-' := fun same => noMinus rest (same ▸ rfl)
      simp [isSign, notPlus, notMinus]

/-- Every text begins with a longest number. -/
theorem exists_longest (chars : List Char) :
    ∃ (parts : Parts) (rest : List Char), chars = parts.chars ++ rest ∧ parts.Longest rest := by
  obtain ⟨sign, signed, withSign, noSign⟩ := exists_unsigned chars
  obtain ⟨whole, tail, cut, wholeDigits, noDigit⟩ := exists_digits (unsigned chars)
  rw [withSign, cut]
  rw [cut] at noSign
  cases point : tail.head?.any isPoint with
  | false =>
    refine ⟨⟨sign, whole, none⟩, tail, by simp [Parts.chars, Parts.fraction], signed, ?_,
      wholeDigits, nofun, noDigit, fun _ => point⟩
    simpa only [Parts.fraction, List.append_nil] using noSign
  | true =>
    cases tail with
    | nil => cases point
    | cons char afterPoint =>
      obtain rfl : char = '.' := of_decide_eq_true point
      obtain ⟨decimals, rest, rfl, decimalDigits, noMore⟩ := exists_digits afterPoint
      refine ⟨⟨sign, whole, some decimals⟩, rest, by simp [Parts.chars, Parts.fraction], signed, ?_,
        wholeDigits, ?_, noMore, nofun⟩
      · simpa only [Parts.fraction, List.append_assoc, List.cons_append] using noSign
      · rintro _ ⟨⟩
        exact decimalDigits

/-! ### What follows the number -/

theorem mem_units {suffix : String} : suffix ∈ units ↔
    suffix = "" ∨ suffix ∈ decimalUnits ∨ ∃ letter ∈ binaryLetters, letter ++ "i" = suffix := by
  have all : units = "" :: (decimalUnits ++ binaryLetters.map (· ++ "i")) := by decide
  rw [all, List.mem_cons, List.mem_append, List.mem_map]

/-- What follows a number begins neither with a digit nor with a point. -/
theorem EndsNumber.head? {suffix : String} (ends : EndsNumber suffix) :
    suffix.toList.head?.any Char.isDigit = false ∧ suffix.toList.head?.any isPoint = false := by
  have ofUnits : ∀ unit ∈ units, unit.toList.head?.any Char.isDigit = false ∧
      unit.toList.head?.any isPoint = false := by decide
  cases ends with
  | nothing => exact ⟨rfl, rfl⟩
  | decimal known => exact ofUnits _ (mem_units.mpr (.inr (.inl known)))
  | binary known => exact ofUnits _ (mem_units.mpr (.inr (.inr ⟨_, known, rfl⟩)))
  | exponent marked =>
    simp only [List.mem_cons, List.not_mem_nil, or_false] at marked
    rcases marked with rfl | rfl <;> simp [isPoint]

/-- Digits after a sign are what is left without it. -/
theorem unsigned_append {sign digits : String} (signed : sign ∈ signs)
    (only : ∀ char ∈ digits.toList, char.isDigit) :
    unsigned (sign.toList ++ digits.toList) = digits.toList := by
  rcases sign_cases signed with rfl | rfl | rfl
  · rw [String.toList_empty, List.nil_append, unsigned]
    · rintro rest begins
      exact absurd (only '+' (by simp [begins])) (by decide)
    · rintro rest begins
      exact absurd (only '-' (by simp [begins])) (by decide)
  · rfl
  · rfl

/-- An exponent begins with its mark. -/
theorem exists_mark {suffix : String} (exponent : isExponent suffix = true) :
    ∃ mark ∈ ["e", "E"], ∃ rest, mark ++ rest = suffix := by
  unfold isExponent at exponent
  split at exponent
  · next rest begins =>
    exact ⟨"e", by decide, String.ofList rest, String.toList_inj.mp (by simp [begins])⟩
  · next rest begins =>
    exact ⟨"E", by decide, String.ofList rest, String.toList_inj.mp (by simp [begins])⟩
  · cases exponent

/-- A mark makes an exponent of the digits after a sign. -/
theorem isExponent_mark {mark rest : String} (marked : mark ∈ ["e", "E"]) :
    isExponent (mark ++ rest) = true ↔
      unsigned rest.toList ≠ [] ∧ ∀ char ∈ unsigned rest.toList, char.isDigit = true := by
  have opened : isExponent (mark ++ rest) = (!(unsigned rest.toList).isEmpty &&
      (utf8 (unsigned rest.toList)).all isDigitByte) := by
    simp only [List.mem_cons, List.not_mem_nil, or_false] at marked
    rcases marked with rfl | rfl <;> simp [isExponent]
  rw [opened, testsAscii_digit.all_utf8, Bool.and_eq_true, List.all_eq_true, Bool.not_eq_true',
    List.isEmpty_eq_false_iff]

/-- An exponent is a mark, a sign, which may be missing, and at least one digit. -/
theorem isExponent_iff {suffix : String} : isExponent suffix = true ↔
    ∃ mark ∈ ["e", "E"], ∃ sign ∈ signs, ∃ digits : String, digits ≠ "" ∧
      (∀ char ∈ digits.toList, char.isDigit) ∧ mark ++ sign ++ digits = suffix := by
  constructor
  · intro exponent
    obtain ⟨mark, marked, rest, rfl⟩ := exists_mark exponent
    obtain ⟨some, only⟩ := (isExponent_mark marked).mp exponent
    obtain ⟨sign, signed, cut, -⟩ := exists_unsigned rest.toList
    have whole : sign ++ String.ofList (unsigned rest.toList) = rest :=
      String.toList_inj.mp (by rw [String.toList_append, String.toList_ofList, ← cut])
    refine ⟨mark, marked, sign, signed, String.ofList (unsigned rest.toList), ?_, ?_, ?_⟩
    · exact fun empty => some (by simpa using congrArg String.toList empty)
    · rwa [String.toList_ofList]
    · rw [String.append_assoc, whole]
  · rintro ⟨mark, marked, sign, signed, digits, some, only, rfl⟩
    rw [String.append_assoc, isExponent_mark marked, String.toList_append,
      unsigned_append signed only]
    exact ⟨fun empty => some (String.toList_eq_nil_iff.mp empty), only⟩

theorem isSuffix_iff {suffix : String} : isSuffix suffix = true ↔ EndsNumber suffix := by
  rw [isSuffix, Bool.or_eq_true, isExponent_iff, List.contains_iff_mem, mem_units]
  constructor
  · rintro ((rfl | decimal | ⟨letter, binary, rfl⟩) |
      ⟨mark, marked, sign, signed, digits, some, only, rfl⟩)
    · exact .nothing
    · exact .decimal decimal
    · exact .binary binary
    · exact .exponent marked signed some only
  · intro ends
    cases ends with
    | nothing => exact .inl (.inl rfl)
    | decimal known => exact .inl (.inr (.inl known))
    | binary known => exact .inl (.inr (.inr ⟨_, known, rfl⟩))
    | exponent marked signed some only =>
      exact .inr ⟨_, marked, _, signed, _, some, only, rfl⟩

/-! ### The grammar is what the scanner accepts -/

theorem point_not_mem {digits : List Char} (all : ∀ char ∈ digits, char.isDigit = true) :
    '.' ∉ digits :=
  fun member => absurd (all '.' member) (by decide)

theorem Parts.mem_fraction {parts : Parts} {char : Char} : char ∈ parts.fraction ↔
    (char = '.' ∧ parts.decimals.isSome) ∨ ∃ digits ∈ parts.decimals, char ∈ digits := by
  rw [fraction]
  cases parts.decimals <;> simp

/-- The digits around its point, if it has one, make a number. -/
theorem isNumber_of_parts {parts : Parts} {text : String}
    (written : text.toList = parts.whole ++ parts.fraction)
    (whole : ∀ char ∈ parts.whole, char.isDigit = true)
    (decimals : ∀ digits ∈ parts.decimals, ∀ char ∈ digits, char.isDigit = true)
    (some : parts.digits ≠ 0) : IsNumber text := by
  have members {char : Char} : char ∈ text.toList ↔ char ∈ parts.whole ∨
      (char = '.' ∧ parts.decimals.isSome) ∨ ∃ digits ∈ parts.decimals, char ∈ digits := by
    rw [written, List.mem_append, Parts.mem_fraction]
  have fractionPoints : parts.fraction.count '.' ≤ 1 := by
    rw [Parts.fraction]
    split
    · next digits given =>
      have noPoint := List.count_eq_zero.mpr (point_not_mem (decimals digits given))
      exact Nat.le_of_eq (by rw [List.count_cons_self, noPoint])
    · exact Nat.zero_le 1
  refine ⟨fun char member => ?_, ?_, ?_⟩
  · rcases members.mp member with before | point | ⟨digits, given, later⟩
    · exact .inl (whole char before)
    · exact .inr point.1
    · exact .inl (decimals digits given char later)
  · rw [written, List.count_append, List.count_eq_zero.mpr (point_not_mem whole), Nat.zero_add]
    exact fractionPoints
  · by_cases empty : parts.whole = []
    · have after : parts.decimals.getD [] ≠ [] := by
        intro none
        exact some (by rw [Parts.digits, empty, none]; rfl)
      obtain ⟨digit, member⟩ := List.exists_mem_of_ne_nil _ after
      cases given : parts.decimals with
      | none => simp [given] at member
      | some digits =>
        rw [given, Option.getD_some] at member
        exact ⟨digit, members.mpr (.inr (.inr ⟨digits, given, member⟩)),
          decimals digits given digit member⟩
    · obtain ⟨digit, member⟩ := List.exists_mem_of_ne_nil _ empty
      exact ⟨digit, members.mpr (.inl member), whole digit member⟩

/-- A number is made of the digits around its point, if it has one. -/
theorem IsNumber.exists_parts {text : String} (number : IsNumber text) (sign : String) :
    ∃ parts : Parts, parts.sign = sign ∧ text.toList = parts.whole ++ parts.fraction ∧
      (∀ char ∈ parts.whole, char.isDigit = true) ∧
      (∀ digits ∈ parts.decimals, ∀ char ∈ digits, char.isDigit = true) ∧ parts.digits ≠ 0 := by
  obtain ⟨whole, tail, cut, wholeDigits, noDigit⟩ := exists_digits text.toList
  obtain ⟨digit, member, isDigit⟩ := number.someDigit
  rw [cut] at member
  cases tail with
  | nil =>
    refine ⟨⟨sign, whole, none⟩, rfl, cut, wholeDigits, nofun, ?_⟩
    rw [List.append_nil] at member
    exact Nat.ne_of_gt (Nat.add_pos_left (List.length_pos_of_mem member) _)
  | cons char decimals =>
    have point : char = '.' := by
      rcases number.written char (by simp [cut]) with digit | point
      · cases digit.symm.trans noDigit
      · exact point
    subst point
    have noPoint : '.' ∉ decimals := by
      have count := number.onePoint
      rw [cut, List.count_append, List.count_cons_self] at count
      exact List.count_eq_zero.mp (by omega)
    have decimalDigits : ∀ char ∈ decimals, char.isDigit = true := by
      intro char member
      rcases number.written char (by simp [cut, member]) with digit | rfl
      · exact digit
      · exact absurd member noPoint
    refine ⟨⟨sign, whole, some decimals⟩, rfl, cut, wholeDigits, ?_, ?_⟩
    · rintro _ ⟨⟩
      exact decimalDigits
    · rcases List.mem_append.mp member with before | later
      · exact Nat.ne_of_gt (Nat.add_pos_left (List.length_pos_of_mem before) _)
      · rcases List.mem_cons.mp later with rfl | later
        · cases isDigit
        · exact Nat.ne_of_gt (Nat.add_pos_right _ (List.length_pos_of_mem later))

/-- A text is put together from the characters at its start and those that follow. -/
theorem eq_append_of_toList {text : String} {left right : List Char}
    (cut : text.toList = left ++ right) : text = String.ofList left ++ String.ofList right :=
  String.toList_inj.mp (by
    rw [cut, String.toList_append, String.toList_ofList, String.toList_ofList])

/-- A text is cut where its number ends, and what follows is to be a suffix. -/
theorem parse?_of_longest {parts : Parts} {rest : List Char} (longest : parts.Longest rest)
    {text : String} (cut : text.toList = parts.chars ++ rest) :
    parse? text =
      if parts.digits = 0 then none
      else if isSuffix (String.ofList rest) then some text else none := by
  have found : numeral (bytes text) =
      ⟨(bytes (String.ofList parts.chars)).length, parts.digits⟩ := by
    rw [bytes_eq, cut, numeral_of_longest longest, bytes_ofList]
  have suffix : textFrom? text (bytes (String.ofList parts.chars)).length =
      some (String.ofList rest) := by
    rw [eq_append_of_toList cut, textFrom?_append]
  simp only [parse?, found, suffix, Option.any_some]

/-- The number at the start of a text ends between two characters. -/
theorem isValid_stop (text : String) :
    (String.Pos.Raw.mk (numeral (bytes text)).stop).IsValid text := by
  obtain ⟨parts, rest, cut, longest⟩ := exists_longest text.toList
  rw [bytes_eq, cut, numeral_of_longest longest, ← bytes_ofList]
  exact eq_append_of_toList cut ▸ isValid_append _ _

/-- A number begins with a digit or with its point, so with no sign. -/
theorem head?_number {parts : Parts} (whole : ∀ char ∈ parts.whole, char.isDigit = true)
    (some : parts.digits ≠ 0) (rest : List Char) :
    (parts.whole ++ parts.fraction ++ rest).head?.any isSign = false := by
  obtain ⟨sign, digits, decimals⟩ := parts
  cases digits with
  | nil =>
    cases decimals with
    | none => exact absurd rfl some
    | some decimals => rfl
  | cons char more =>
    have digit := whole char List.mem_cons_self
    refine Bool.eq_false_iff.mpr fun isSign => ?_
    rcases Bool.or_eq_true_iff.mp isSign with plus | minus
    · rw [of_decide_eq_true plus] at digit
      cases digit
    · rw [of_decide_eq_true minus] at digit
      cases digit

/-- The scanner accepts the texts of the grammar, unchanged, and no other ones. -/
theorem parse?_eq_some_iff {text : String} {quantity : Quantity} :
    parse? text = some quantity ↔ IsQuantity text ∧ quantity = text := by
  constructor
  · intro parsed
    obtain ⟨parts, rest, cut, longest⟩ := exists_longest text.toList
    rw [parse?_of_longest longest cut] at parsed
    split at parsed
    · cases parsed
    · next some =>
      split at parsed
      · next suffix =>
        cases parsed
        have number : IsNumber (String.ofList (parts.whole ++ parts.fraction)) :=
          isNumber_of_parts String.toList_ofList longest.whole longest.decimals some
        have same : text = parts.sign ++ String.ofList (parts.whole ++ parts.fraction) ++
            String.ofList rest := by
          rw [eq_append_of_toList cut, Parts.chars, String.ofList_append, String.ofList_toList]
        rw [same]
        exact ⟨.parts longest.signed number (isSuffix_iff.mp suffix), rfl⟩
      · cases parsed
  · rintro ⟨@⟨sign, number, suffix, signed, numbered, ends⟩, rfl⟩
    obtain ⟨parts, rfl, written, whole, decimals, some⟩ := numbered.exists_parts sign
    have longest : parts.Longest suffix.toList := ⟨signed, fun _ => head?_number whole some _,
      whole, decimals, ends.head?.1, fun _ => ends.head?.2⟩
    have cut : (parts.sign ++ number ++ suffix).toList = parts.chars ++ suffix.toList := by
      rw [String.toList_append, String.toList_append, written, Parts.chars]
    rw [parse?_of_longest longest cut, if_neg some, String.ofList_toList,
      if_pos (isSuffix_iff.mpr ends)]

theorem isSome_parse?_iff {text : String} : (parse? text).isSome = true ↔ IsQuantity text := by
  rw [Option.isSome_iff_exists]
  constructor
  · rintro ⟨quantity, parsed⟩
    exact (parse?_eq_some_iff.mp parsed).1
  · exact fun written => ⟨text, parse?_eq_some_iff.mpr ⟨written, rfl⟩⟩

instance (text : String) : Decidable (IsQuantity text) := decidable_of_iff _ isSome_parse?_iff

theorem parseD_of_isQuantity {text : String} (written : IsQuantity text) (fallback : Quantity) :
    parseD text fallback = text := by
  rw [parseD, parse?_eq_some_iff.mpr ⟨written, rfl⟩, Option.getD_some]

theorem parseD_of_not_isQuantity {text : String} (other : ¬IsQuantity text) (fallback : Quantity) :
    parseD text fallback = fallback := by
  cases parsed : parse? text with
  | none => rw [parseD, parsed, Option.getD_none]
  | some quantity => exact absurd (parse?_eq_some_iff.mp parsed).1 other

end Quantity

/-! ### What a container is allotted -/

/-- The amounts of an allotment. -/
inductive Amount where
  | requestCpu
  | requestMemory
  | limitCpu
  | limitMemory
  deriving DecidableEq

/-- What is asked for as an amount. -/
def Resources.asked (resources : Resources) : Amount → String
  | .requestCpu => resources.requests.cpu
  | .requestMemory => resources.requests.memory
  | .limitCpu => resources.limits.cpu
  | .limitMemory => resources.limits.memory

namespace Allotment

open Quantity

/-- An amount of an allotment. -/
def amount (allotment : Allotment) : Amount → Quantity
  | .requestCpu => allotment.requestCpu
  | .requestMemory => allotment.requestMemory
  | .limitCpu => allotment.limitCpu
  | .limitMemory => allotment.limitMemory

/-- The resources that ask for the amounts of an allotment. -/
def asResources (allotment : Allotment) : Resources where
  requests := { cpu := allotment.requestCpu, memory := allotment.requestMemory }
  limits := { cpu := allotment.limitCpu, memory := allotment.limitMemory }

theorem ext_amount {left right : Allotment}
    (same : ∀ amount, left.amount amount = right.amount amount) : left = right := by
  obtain ⟨requestCpu, requestMemory, limitCpu, limitMemory⟩ := left
  cases same .requestCpu
  cases same .requestMemory
  cases same .limitCpu
  cases same .limitMemory
  rfl

theorem asked_asResources (allotment : Allotment) (amount : Amount) :
    allotment.asResources.asked amount = allotment.amount amount := by
  cases amount <;> rfl

theorem amount_ofResources (resources : Resources) (amount : Amount) :
    (ofResources resources).amount amount =
      parseD (resources.asked amount) (default.amount amount) := by
  cases amount <;> rfl

/-- Every default is a quantity. -/
theorem isQuantity_default (amount : Amount) : IsQuantity (default.amount amount) := by
  cases amount <;> decide

/-- Every amount of an allotment is a quantity, whatever is asked for. -/
theorem isQuantity_amount (resources : Resources) (amount : Amount) :
    IsQuantity ((ofResources resources).amount amount) := by
  rw [amount_ofResources]
  by_cases written : IsQuantity (resources.asked amount)
  · rwa [parseD_of_isQuantity written]
  · rw [parseD_of_not_isQuantity written]
    exact isQuantity_default amount

/-- Asking for what was allotted allots the same. -/
theorem ofResources_asResources (resources : Resources) :
    ofResources (ofResources resources).asResources = ofResources resources := by
  refine ext_amount fun amount => ?_
  rw [amount_ofResources, asked_asResources,
    parseD_of_isQuantity (isQuantity_amount resources amount)]

/-- The quantities are the texts of the grammar, unchanged, and the scanner cuts every text between
two characters.  Hence every amount of an allotment is a quantity: what is asked for if that is one,
and else its own default, whatever is asked for as the other amounts.  Asking for what was allotted
allots the same. -/
theorem of_grammar :
    (∀ text : String,
      (∀ quantity, parse? text = some quantity ↔ IsQuantity text ∧ quantity = text) ∧
        (String.Pos.Raw.mk (numeral (bytes text)).stop).IsValid text) ∧
      ∀ resources : Resources,
        (∀ amount, IsQuantity ((ofResources resources).amount amount) ∧
          (IsQuantity (resources.asked amount) →
            (ofResources resources).amount amount = resources.asked amount) ∧
          (¬IsQuantity (resources.asked amount) →
            (ofResources resources).amount amount = default.amount amount) ∧
          ∀ other : Resources, other.asked amount = resources.asked amount →
            (ofResources other).amount amount = (ofResources resources).amount amount) ∧
        ofResources (ofResources resources).asResources = ofResources resources := by
  refine ⟨fun text => ⟨fun _ => parse?_eq_some_iff, isValid_stop text⟩, fun resources =>
    ⟨fun amount => ⟨isQuantity_amount resources amount, ?_, ?_, ?_⟩,
      ofResources_asResources resources⟩⟩
  · intro written
    rw [amount_ofResources, parseD_of_isQuantity written]
  · intro other
    rw [amount_ofResources, parseD_of_not_isQuantity other]
  · intro other same
    rw [amount_ofResources, amount_ofResources, same]

/-- Resources of which one amount is a quantity, one is padded, one has a unit that there is not,
and one is missing. -/
def mixedResources : Resources where
  requests := { cpu := " 250m ", memory := "1.5E-2" }
  limits := { cpu := "12MB" }

/-- What mixed resources are allotted: the one quantity among them, and three defaults. -/
theorem of_grammar_of_mixedResources :
    IsQuantity (mixedResources.asked .requestMemory) ∧
      (ofResources mixedResources).amount .requestMemory = "1.5E-2" ∧
      ∀ amount, amount ≠ .requestMemory → ¬IsQuantity (mixedResources.asked amount) ∧
        (ofResources mixedResources).amount amount = default.amount amount := by
  have amounts := (of_grammar.2 mixedResources).1
  have quantity : IsQuantity (mixedResources.asked .requestMemory) := by decide
  refine ⟨quantity, (amounts .requestMemory).2.1 quantity, fun amount other => ?_⟩
  have none : ¬IsQuantity (mixedResources.asked amount) := by
    cases amount with
    | requestMemory => exact absurd rfl other
    | requestCpu | limitCpu | limitMemory => decide
  exact ⟨none, (amounts amount).2.2.1 none⟩

end Allotment

end Caretaker
