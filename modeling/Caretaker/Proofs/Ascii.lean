import Caretaker.Text.Utf8

/-!
# Characters of ASCII among bytes

A character of ASCII is one byte, and no other character begins with such a byte
(`exists_utf8EncodeChar`).  So a test of bytes that finds characters of ASCII only (`TestsAscii`)
finds in the bytes of a text what it is to find among the characters (`TestsAscii.head?_utf8`,
`TestsAscii.takeWhile_utf8`, `TestsAscii.all_utf8`).
-/

namespace Caretaker

/-- A character of ASCII is one byte; every other one begins with a byte that is none of ASCII. -/
theorem exists_utf8EncodeChar (char : Char) :
    char.toNat < 128 ∧ String.utf8EncodeChar char = [char.toUInt8] ∨
      128 ≤ char.toNat ∧
        ∃ first rest, String.utf8EncodeChar char = first :: rest ∧ 128 ≤ first := by
  have code : char.val.toNat = char.toNat := rfl
  by_cases ascii : char.toNat < 128
  · refine Or.inl ⟨ascii, ?_⟩
    simp only [String.utf8EncodeChar, code, if_pos (show char.toNat ≤ 127 by omega)]
    rfl
  · refine Or.inr ⟨by omega, ?_⟩
    simp only [String.utf8EncodeChar, code, if_neg (show ¬char.toNat ≤ 127 by omega)]
    have large {n : Nat} (least : 128 ≤ n) (most : n < 256) : 128 ≤ UInt8.ofNat n := by
      rw [UInt8.le_iff_toNat_le, UInt8.toNat_ofNat_of_lt' most]
      exact least
    split
    · exact ⟨_, _, rfl, large (by omega) (by omega)⟩
    · split
      · exact ⟨_, _, rfl, large (by omega) (by omega)⟩
      · exact ⟨_, _, rfl, large (by omega) (by omega)⟩

/-- The byte of a character of ASCII is its code. -/
theorem toNat_toUInt8 {char : Char} (ascii : char.toNat < 128) :
    char.toUInt8.toNat = char.toNat :=
  UInt8.toNat_ofNat_of_lt' (show char.toNat < 256 by omega)

/-- Characters of ASCII are told apart by their bytes. -/
theorem toUInt8_inj_of_ascii {left right : Char} (leftAscii : left.toNat < 128)
    (rightAscii : right.toNat < 128) : left.toUInt8 = right.toUInt8 ↔ left = right := by
  constructor
  · intro same
    have codes := congrArg UInt8.toNat same
    rw [toNat_toUInt8 leftAscii, toNat_toUInt8 rightAscii] at codes
    exact Char.toNat_inj.mp codes
  · exact congrArg Char.toUInt8

/-- Whether a test of bytes finds the characters of ASCII that a test of characters finds, and both
find nothing else. -/
structure TestsAscii (ofByte : UInt8 → Bool) (ofChar : Char → Bool) : Prop where
  ascii : ∀ char : Char, char.toNat < 128 → ofByte char.toUInt8 = ofChar char
  otherByte : ∀ byte, 128 ≤ byte → ofByte byte = false
  otherChar : ∀ char : Char, 128 ≤ char.toNat → ofChar char = false

namespace TestsAscii

variable {ofByte : UInt8 → Bool} {ofChar : Char → Bool}

theorem head?_utf8 (tests : TestsAscii ofByte ofChar) (chars : List Char) :
    (utf8 chars).head?.any ofByte = chars.head?.any ofChar := by
  cases chars with
  | nil => rfl
  | cons char rest =>
    rw [utf8_cons]
    rcases exists_utf8EncodeChar char with ⟨ascii, single⟩ | ⟨other, first, more, begins, large⟩
    · rw [single]
      exact tests.ascii char ascii
    · rw [begins]
      exact (tests.otherByte first large).trans (tests.otherChar char other).symm

theorem takeWhile_utf8 (tests : TestsAscii ofByte ofChar) (chars : List Char) :
    (utf8 chars).takeWhile ofByte = utf8 (chars.takeWhile ofChar) := by
  induction chars with
  | nil => rfl
  | cons char rest ih =>
    rw [utf8_cons, List.takeWhile_cons]
    rcases exists_utf8EncodeChar char with ⟨ascii, single⟩ | ⟨other, first, more, begins, large⟩
    · rw [single, List.cons_append, List.takeWhile_cons, tests.ascii char ascii, List.nil_append,
        ih]
      split
      · rw [utf8_cons, single]
        rfl
      · rfl
    · rw [begins, List.cons_append, List.takeWhile_cons, tests.otherByte first large,
        tests.otherChar char other]
      rfl

theorem all_utf8 (tests : TestsAscii ofByte ofChar) (chars : List Char) :
    (utf8 chars).all ofByte = chars.all ofChar := by
  induction chars with
  | nil => rfl
  | cons char rest ih =>
    rw [utf8_cons, List.all_append, List.all_cons, ih]
    rcases exists_utf8EncodeChar char with ⟨ascii, single⟩ | ⟨other, first, more, begins, large⟩
    · rw [single, List.all_cons, List.all_nil, Bool.and_true, tests.ascii char ascii]
    · rw [begins, List.all_cons, tests.otherByte first large, tests.otherChar char other,
        Bool.false_and]

/-- Characters that a test of bytes finds are one byte each. -/
theorem length_utf8 (tests : TestsAscii ofByte ofChar) {chars : List Char}
    (found : ∀ char ∈ chars, ofChar char = true) : (utf8 chars).length = chars.length := by
  induction chars with
  | nil => rfl
  | cons char rest ih =>
    rw [List.forall_mem_cons] at found
    rw [utf8_cons, List.length_append, ih found.2]
    rcases exists_utf8EncodeChar char with ⟨-, single⟩ | ⟨other, -⟩
    · rw [single, List.length_singleton, List.length_cons, Nat.add_comm]
    · cases found.1.symm.trans (tests.otherChar char other)

/-- A search for one character of ASCII may go through the bytes. -/
theorem eq (wanted : Char) (wantedAscii : wanted.toNat < 128) :
    TestsAscii (fun byte => byte = wanted.toUInt8) (fun char => char = wanted) where
  ascii char ascii := decide_eq_decide.mpr (toUInt8_inj_of_ascii ascii wantedAscii)
  otherByte byte large := by
    refine decide_eq_false ?_
    rintro rfl
    rw [UInt8.le_iff_toNat_le, toNat_toUInt8 wantedAscii] at large
    exact Nat.not_le.mpr wantedAscii large
  otherChar char large := by
    refine decide_eq_false ?_
    rintro rfl
    exact Nat.not_le.mpr wantedAscii large

theorem or {otherOfByte : UInt8 → Bool} {otherOfChar : Char → Bool}
    (tests : TestsAscii ofByte ofChar) (others : TestsAscii otherOfByte otherOfChar) :
    TestsAscii (fun byte => ofByte byte || otherOfByte byte)
      (fun char => ofChar char || otherOfChar char) where
  ascii char ascii := by rw [tests.ascii char ascii, others.ascii char ascii]
  otherByte byte large := by
    rw [tests.otherByte byte large, others.otherByte byte large, Bool.or_false]
  otherChar char large := by
    rw [tests.otherChar char large, others.otherChar char large, Bool.or_false]

/-- The digits of a text may be looked for among its bytes. -/
theorem digit : TestsAscii (fun byte => '0'.toUInt8 ≤ byte && byte ≤ '9'.toUInt8) Char.isDigit where
  ascii char ascii := by
    have value : char.toUInt8.toNat = char.val.toNat := toNat_toUInt8 ascii
    simp only [Char.isDigit, UInt8.le_iff_toNat_le, value, ge_iff_le, UInt32.le_iff_toNat_le]
    rfl
  otherByte byte large := by
    have above : ¬byte ≤ '9'.toUInt8 := by
      rw [UInt8.le_iff_toNat_le] at large ⊢
      exact Nat.not_le.mpr (Nat.lt_of_lt_of_le (by decide) large)
    rw [decide_eq_false above, Bool.and_false]
  otherChar char large := by
    have above : ¬char.val ≤ '9'.val := by
      rw [UInt32.le_iff_toNat_le]
      exact Nat.not_le.mpr (Nat.lt_of_lt_of_le (by decide) large)
    rw [Char.isDigit, decide_eq_false above, Bool.and_false]

end TestsAscii

end Caretaker
