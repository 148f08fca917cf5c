/-!
# Characters and their columns

Indentation carries meaning in YAML, so the parser works on characters that know their column.
-/

namespace Caretaker

namespace Yaml

/-- A character and its column. -/
structure Cell where
  char : Char
  column : Nat

/-- What is left of a text. -/
abbrev Cells := List Cell

/-- The cells of a text that begins in a column. -/
def cellsFrom (column : Nat) : List Char → Cells
  | [] => []
  | '\n' :: rest => ⟨'\n', column⟩ :: cellsFrom 0 rest
  | char :: rest => ⟨char, column⟩ :: cellsFrom (column + 1) rest

/-- Every line break as a line feed. -/
def unifyBreaks : List Char → List Char
  | [] => []
  | '\r' :: '\n' :: rest => '\n' :: unifyBreaks rest
  | char :: rest =>
    (if char = '\r' || char = '\u0085' then '\n' else char) :: unifyBreaks rest

/-- Whether a document may hold a character. -/
def isPrintable (char : Char) : Bool :=
  let code := char.toNat
  code = 0x9 || code = 0xA || code = 0xD || (0x20 ≤ code && code ≤ 0x7E) || code = 0x85 ||
    (0xA0 ≤ code && code ≤ 0xD7FF) || (0xE000 ≤ code && code ≤ 0xFFFD && code ≠ 0xFEFF) ||
    0x10000 ≤ code

/-- Whether a character is a space or a tab. -/
def isBlank (char : Char) : Bool := char = ' ' || char = '\t'

/-- Whether a character separates words. -/
def isSpace (char : Char) : Bool := isBlank char || char = '\n'

namespace Cells

/-- Whether the next character separates words; so does the end. -/
def atSpace : Cells → Bool
  | [] => true
  | cell :: _ => isSpace cell.char

/-- Whether the line ends here. -/
def atBreak : Cells → Bool
  | [] => true
  | cell :: _ => cell.char = '\n'

/-- Without leading spaces and tabs. -/
def skipBlanks (cells : Cells) : Cells := cells.dropWhile fun cell => isBlank cell.char

/-- Without leading spaces. -/
def skipSpaces (cells : Cells) : Cells := cells.dropWhile fun cell => cell.char = ' '

/-- Without the rest of the line. -/
def skipLine (cells : Cells) : Cells := cells.dropWhile fun cell => cell.char ≠ '\n'

/-- Whether three times the given character stand at the start of a line, and nothing else in the
same word. -/
def atMarker (char : Char) : Cells → Bool
  | ⟨a, 0⟩ :: ⟨b, _⟩ :: ⟨c, _⟩ :: rest => a = char && b = char && c = char && atSpace rest
  | _ => false

/-- Whether a document starts or ends here. -/
def atDocumentMarker (cells : Cells) : Bool := atMarker '-' cells || atMarker '.' cells

/-- The rest of a line that holds nothing but a comment, which blanks must set apart. -/
def endOfLine? (cells : Cells) : Option Cells :=
  match skipBlanks cells with
  | [] => some []
  | ⟨'\n', column⟩ :: rest => some (⟨'\n', column⟩ :: rest)
  | ⟨'#', column⟩ :: rest =>
    if (cells.head?.any fun cell => isBlank cell.char) || column = 0 then some (skipLine rest)
    else none
  | _ => none

/-- The next token after lines that hold nothing but comments.  A line is indented by spaces, so a
tab at its start is a token, which nothing can begin with. -/
def skipLines : Nat → Cells → Cells
  | 0, cells => cells
  | fuel + 1, cells =>
    let atStart := cells.head?.any fun cell => cell.column = 0
    let next := if atStart then skipSpaces cells else skipBlanks cells
    match next with
    | [] => []
    | ⟨'\n', _⟩ :: rest => skipLines fuel rest
    | ⟨'#', _⟩ :: rest =>
      if atStart || next.length < cells.length then skipLines fuel (skipLine rest) else next
    | _ => next

end Cells

/-- White space between two words. -/
structure Gap where
  /-- The blanks in front of the first line break. -/
  blanks : List Char := []
  breaks : Nat := 0
  /-- Whether a tab stands after a line break, left of the given column. -/
  tabbed : Bool := false
  rest : Cells := []

/-- The white space at the start of a text. -/
def gap (column : Nat) (broken : Bool) : Cells → Gap
  | [] => {}
  | cell :: rest =>
    if cell.char = '\n' then
      let after := gap column true rest
      { after with blanks := [], breaks := after.breaks + 1 }
    else if isBlank cell.char then
      let after := gap column broken rest
      { after with
        blanks := cell.char :: after.blanks
        tabbed := after.tabbed || (broken && cell.char = '\t' && cell.column < column) }
    else { rest := cell :: rest }

/-- What stands for white space inside a scalar: one line break is a space, and of several the first
one is dropped. -/
def Gap.text (gap : Gap) : List Char :=
  match gap.breaks with
  | 0 => gap.blanks
  | 1 => [' ']
  | breaks + 2 => List.replicate (breaks + 1) '\n'

end Yaml

end Caretaker
