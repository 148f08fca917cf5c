/-!
# Splitting texts

`splitText` cuts a text at every separator.  The parts hold no separator
(`not_mem_of_mem_splitText`).  To split a text and to put texts together undo each other: the parts
of a text give the text back (`intercalate_splitText`), and texts without separators are the parts
of what they are put together to (`splitText_intercalate`).
-/

namespace Caretaker

/-- The parts of a text between separators; there is always one part more than there are
separators. -/
def splitText (separator : Char) (text : String) : List String :=
  (text.toList.splitOn separator).map String.ofList

variable {separator : Char}

theorem not_mem_of_mem_splitOn {chars part : List Char}
    (member : part ∈ chars.splitOn separator) : separator ∉ part := by
  induction chars generalizing part with
  | nil =>
    rw [List.splitOn_nil, List.mem_singleton] at member
    rw [member]
    exact List.not_mem_nil
  | cons char rest ih =>
    rw [List.splitOn, List.splitOnP_cons_eq_if_modifyHead, ← List.splitOn] at member
    split at member
    case isTrue =>
      rcases List.mem_cons.mp member with rfl | later
      · exact List.not_mem_nil
      · exact ih later
    case isFalse apart =>
      cases found : rest.splitOn separator with
      | nil => simp [found] at member
      | cons first others =>
        rw [found] at ih member
        rcases List.mem_cons.mp member with rfl | later
        · have apart : separator ≠ char := fun same => apart (beq_iff_eq.mpr same.symm)
          simpa [apart] using ih List.mem_cons_self
        · exact ih (List.mem_cons_of_mem _ later)

theorem not_mem_of_mem_splitText {text part : String} (member : part ∈ splitText separator text) :
    separator ∉ part.toList := by
  obtain ⟨chars, found, rfl⟩ := List.mem_map.mp member
  rw [String.toList_ofList]
  exact not_mem_of_mem_splitOn found

/-- The parts of a text, put together again, give the text back. -/
theorem intercalate_splitText (separator : Char) (text : String) :
    (String.singleton separator).intercalate (splitText separator text) = text := by
  have same : String.toList ∘ String.ofList = id := funext fun _ => String.toList_ofList
  refine String.toList_inj.mp ?_
  rw [String.toList_intercalate, String.toList_singleton, splitText, List.map_map, same,
    List.map_id, List.intercalate_splitOn]

/-- Texts without separators are the parts of what they are put together to. -/
theorem splitText_intercalate {parts : List String} (some : parts ≠ [])
    (apart : ∀ part ∈ parts, separator ∉ part.toList) :
    splitText separator ((String.singleton separator).intercalate parts) = parts := by
  have apart : ∀ chars ∈ parts.map String.toList, separator ∉ chars := by
    intro chars member
    obtain ⟨part, found, rfl⟩ := List.mem_map.mp member
    exact apart part found
  have some : parts.map String.toList ≠ [] := fun none => some (List.map_eq_nil_iff.mp none)
  have same : String.ofList ∘ String.toList = id := funext fun _ => String.ofList_toList
  rw [splitText, String.toList_intercalate, String.toList_singleton,
    List.splitOn_intercalate separator apart some, List.map_map, same, List.map_id]

end Caretaker
