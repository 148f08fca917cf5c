/-!
# Texts as bytes

A text is kept as the UTF-8 bytes of its characters (`bytes`).  A text can be cut at the end of a
character only (`textFrom?`): where a text is put together from two, it can be cut between them
(`textFrom?_append`).
-/

namespace Caretaker

/-- The bytes of a list of characters. -/
def utf8 (chars : List Char) : List UInt8 := chars.flatMap String.utf8EncodeChar

/-- The bytes of a text. -/
def bytes (text : String) : List UInt8 := text.toByteArray.data.toList

/-- The text from a byte on, unless that byte lies inside a character. -/
def textFrom? (text : String) (position : Nat) : Option String :=
  if boundary : (String.Pos.Raw.mk position).IsValid text then
    some (text.sliceFrom (text.pos ⟨position⟩ boundary)).copy
  else none

@[simp]
theorem utf8_cons (char : Char) (chars : List Char) :
    utf8 (char :: chars) = String.utf8EncodeChar char ++ utf8 chars := rfl

@[simp]
theorem utf8_append (left right : List Char) : utf8 (left ++ right) = utf8 left ++ utf8 right :=
  List.flatMap_append

theorem bytes_ofList (chars : List Char) : bytes (String.ofList chars) = utf8 chars := by
  rw [bytes, String.toByteArray_ofList, List.utf8Encode, List.data_toByteArray, utf8]

theorem bytes_eq (text : String) : bytes text = utf8 text.toList := by
  rw [← bytes_ofList, String.ofList_toList]

theorem length_bytes (text : String) : (bytes text).length = text.utf8ByteSize := by
  rw [bytes, Array.length_toList, ← String.size_toByteArray, ByteArray.size]

/-- A text that is put together from two can be cut between them. -/
theorem isValid_append (left right : String) :
    (String.Pos.Raw.mk (bytes left).length).IsValid (left ++ right) :=
  String.Pos.Raw.isValid_iff_exists_append.mpr
    ⟨left, right, rfl, congrArg String.Pos.Raw.mk (length_bytes left)⟩

theorem textFrom?_append (left right : String) :
    textFrom? (left ++ right) (bytes left).length = some right := by
  rw [textFrom?, dif_pos (isValid_append left right)]
  refine congrArg some (String.Pos.Splits.copy_sliceFrom_eq ⟨rfl, ?_⟩)
  rw [String.offset_pos]
  exact congrArg String.Pos.Raw.mk (length_bytes left)

end Caretaker
