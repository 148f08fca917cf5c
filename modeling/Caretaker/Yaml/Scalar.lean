import Caretaker.Yaml.Basic
import Caretaker.Yaml.Cell

/-!
# Scalars

Plain scalars, scalars in quotes and scalars in blocks.
-/

namespace Caretaker

namespace Yaml

/-- A scalar that was read. -/
structure Scalar where
  text : List Char
  /-- Whether the scalar goes over several lines. -/
  broken : Bool := false
  rest : Cells

namespace Scalar

/-- The scalar with more text in front. -/
def prepend (chars : List Char) (broken : Bool) (scalar : Scalar) : Scalar :=
  { scalar with text := chars ++ scalar.text, broken := broken || scalar.broken }

/-- The text of a scalar. -/
def toText (scalar : Scalar) : String := String.ofList scalar.text

end Scalar

/-- The characters that separate nodes inside brackets. -/
def isFlowIndicator (char : Char) : Bool := char ∈ [',', '[', ']', '{', '}']

/-- Whether a plain scalar ends at a character. -/
def endsPlain (flow : Bool) (char : Char) (rest : Cells) : Bool :=
  isSpace char || (char = ':' && rest.atSpace) || (flow && isFlowIndicator char) ||
    (flow && char = ':' && rest.head?.any fun cell => cell.char = '?' || isFlowIndicator cell.char)

/-- Whether a plain scalar may begin with a character. -/
def startsPlain (flow : Bool) (char : Char) (rest : Cells) : Bool :=
  if char = '-' then !rest.atSpace
  else if char = '?' || char = ':' then !flow && !rest.atSpace
  else
    !isSpace char && !isFlowIndicator char &&
      char ∉ ['#', '&', '*', '!', '|', '>', '\'', '"', '%', '@', '`']

/-- The next word of a plain scalar. -/
def plainWord (flow : Bool) : Cells → List Char × Cells
  | [] => ([], [])
  | cell :: rest =>
    if endsPlain flow cell.char rest then ([], cell :: rest)
    else
      let (word, after) := plainWord flow rest
      (cell.char :: word, after)

/-- Whether a plain scalar goes on after white space: on the same line, inside brackets, or on lines
that are indented enough. -/
def continuesPlain (flow : Bool) (column : Nat) (gap : Gap) : Bool :=
  match gap.rest with
  | [] => false
  | cell :: rest =>
    cell.char ≠ '#' && !Cells.atDocumentMarker gap.rest && !endsPlain flow cell.char rest &&
      (flow || gap.breaks = 0 || column ≤ cell.column)

/-- Read a plain scalar whose lines are indented to a column. -/
def plainScalar? (flow : Bool) (column : Nat) : Nat → Cells → Option Scalar
  | 0, _ => none
  | fuel + 1, cells =>
    let (word, rest) := plainWord flow cells
    let gap := gap column false rest
    if gap.tabbed && !flow then none
    else if continuesPlain flow column gap then
      (plainScalar? flow column fuel gap.rest).map fun scalar =>
        scalar.prepend (word ++ gap.text) (0 < gap.breaks)
    else some ⟨word, false, rest⟩

/-- Read a plain scalar that ends with its line. -/
def plainLine : Nat → Cells → Scalar
  | 0, cells => ⟨[], false, cells⟩
  | fuel + 1, cells =>
    let (word, rest) := plainWord false cells
    let gap := gap 0 false rest
    if gap.breaks = 0 && continuesPlain false 0 gap then
      (plainLine fuel gap.rest).prepend (word ++ gap.text) false
    else ⟨word, false, rest⟩

/-- Read the rest of a scalar in single quotes; a quote is written twice. -/
def singleQuoted? : Nat → Cells → Option Scalar
  | 0, _ | _, [] => none
  | fuel + 1, ⟨'\'', _⟩ :: ⟨'\'', _⟩ :: rest =>
    (singleQuoted? fuel rest).map (Scalar.prepend ['\''] false)
  | _ + 1, ⟨'\'', _⟩ :: rest => some ⟨[], false, rest⟩
  | fuel + 1, cell :: rest =>
    if isSpace cell.char then
      let gap := gap 0 false (cell :: rest)
      if gap.rest.atDocumentMarker then none
      else (singleQuoted? fuel gap.rest).map (Scalar.prepend gap.text (0 < gap.breaks))
    else (singleQuoted? fuel rest).map (Scalar.prepend [cell.char] false)

/-- The character that a backslash and a character stand for. -/
def escaped? : Char → Option Char
  | '0' => some '\x00'
  | 'a' => some '\x07'
  | 'b' => some '\x08'
  | 't' | '\t' => some '\t'
  | 'n' => some '\n'
  | 'v' => some '\x0b'
  | 'f' => some '\x0c'
  | 'r' => some '\r'
  | 'e' => some '\x1b'
  | ' ' => some ' '
  | '"' => some '"'
  | '/' => some '/'
  | '\\' => some '\\'
  | 'N' => some '\u0085'
  | '_' => some '\u00a0'
  | 'L' => some '\u2028'
  | 'P' => some '\u2029'
  | _ => none

/-- How many digits follow a backslash and a character. -/
def escapeDigits? : Char → Option Nat
  | 'x' => some 2
  | 'u' => some 4
  | 'U' => some 8
  | _ => none

/-- The character with a code. -/
def charOfCode? (code : Nat) : Option Char :=
  if h : code.isValidChar then some (Char.ofNatAux code h) else none

/-- Read the rest of a scalar in double quotes. -/
def doubleQuoted? : Nat → Cells → Option Scalar
  | 0, _ | _, [] => none
  | _ + 1, ⟨'"', _⟩ :: rest => some ⟨[], false, rest⟩
  | fuel + 1, ⟨'\\', _⟩ :: ⟨'\n', _⟩ :: rest =>
    let gap := gap 0 false rest
    if gap.rest.atDocumentMarker then none
    else
      (doubleQuoted? fuel gap.rest).map (Scalar.prepend (List.replicate gap.breaks '\n') true)
  | fuel + 1, ⟨'\\', _⟩ :: ⟨char, _⟩ :: rest =>
    match escapeDigits? char with
    | some count =>
      let digits := rest.take count
      if digits.length < count then none
      else do
        let code ← Digit.number? 16 (digits.map (·.char))
        let char ← charOfCode? code
        (doubleQuoted? fuel (rest.drop count)).map (Scalar.prepend [char] false)
    | none => do
      let char ← escaped? char
      (doubleQuoted? fuel rest).map (Scalar.prepend [char] false)
  | fuel + 1, cell :: rest =>
    if isSpace cell.char then
      let gap := gap 0 false (cell :: rest)
      if gap.rest.atDocumentMarker then none
      else (doubleQuoted? fuel gap.rest).map (Scalar.prepend gap.text (0 < gap.breaks))
    else (doubleQuoted? fuel rest).map (Scalar.prepend [cell.char] false)

/-- Read a scalar in quotes. -/
def quotedScalar? (cells : Cells) : Option Scalar :=
  match cells with
  | ⟨'"', _⟩ :: rest => doubleQuoted? cells.length rest
  | ⟨'\'', _⟩ :: rest => singleQuoted? cells.length rest
  | _ => none

/-- What happens to the line breaks at the end of a block. -/
inductive Chomp where
  | strip
  | clip
  | keep
  deriving DecidableEq

/-- What stands behind the sign of a block. -/
structure BlockHeader where
  literal : Bool
  chomp : Chomp := .clip
  /-- How many columns further than its parent the block is indented, if the header says. -/
  indent : Option Nat := none

/-- Read the header of a block and drop it with its line. -/
def blockHeader? (cells : Cells) : Option (BlockHeader × Cells) := do
  let (literal, rest) ← match cells with
    | ⟨'|', _⟩ :: rest => some (true, rest)
    | ⟨'>', _⟩ :: rest => some (false, rest)
    | _ => none
  let chomp? (cells : Cells) : Option Chomp × Cells :=
    match cells with
    | ⟨'+', _⟩ :: rest => (some .keep, rest)
    | ⟨'-', _⟩ :: rest => (some .strip, rest)
    | rest => (none, rest)
  let indent? (cells : Cells) : Option Nat × Cells :=
    match cells with
    | ⟨char, column⟩ :: rest =>
      if '1' ≤ char ∧ char ≤ '9' then (some (char.toNat - '0'.toNat), rest)
      else (none, ⟨char, column⟩ :: rest)
    | [] => (none, [])
  let (first, rest) := chomp? rest
  let (indent, rest) := indent? rest
  let (second, rest) := if first.isNone then chomp? rest else (none, rest)
  let rest := rest.skipBlanks
  let rest := match rest with
    | ⟨'#', _⟩ :: _ => rest.skipLine
    | rest => rest
  let header := ⟨literal, (first <|> second).getD .clip, indent⟩
  match rest with
  | [] => return (header, [])
  | ⟨'\n', _⟩ :: rest => return (header, rest)
  | _ => none

/-- A line of a block: its characters, whether a line break ends it, and what comes after it. -/
def blockLine (cells : Cells) : List Char × Bool × Cells :=
  match cells.skipLine with
  | [] => (cells.map (·.char), false, [])
  | _ :: rest => ((cells.takeWhile fun cell => cell.char ≠ '\n').map (·.char), true, rest)

/-- The number of spaces that a line begins with. -/
def leadingSpaces (line : List Char) : Nat := (line.takeWhile (· = ' ')).length

/-- How far a block is indented: as its first line that holds more than spaces, if no line of spaces
in front of it is longer, and at least to a column. -/
def blockIndent (column : Nat) : Nat → Cells → Nat
  | 0, _ | _, [] => column
  | fuel + 1, cells =>
    let (line, broken, rest) := blockLine cells
    let spaces := leadingSpaces line
    if spaces = line.length && broken then max spaces (blockIndent column fuel rest)
    else max spaces column

/-- A block that is being read: its text so far, reversed, and the line breaks after it. -/
structure BlockText where
  reversed : List Char := []
  /-- Whether a line break ends the last line. -/
  broken : Bool := false
  /-- The line breaks of empty lines after the last one. -/
  empty : Nat := 0
  /-- Whether the last line begins with a blank. -/
  indented : Bool := false
  /-- Whether there is a last line. -/
  started : Bool := false

namespace BlockText

/-- The block with one more line. -/
def addLine (literal : Bool) (text : BlockText) (line : List Char) (broken : Bool) : BlockText :=
  let indented := line.head?.any isBlank
  let folded := !literal && text.broken && !text.indented && !indented
  let separator :=
    (if folded then (if text.empty = 0 then [' '] else [])
      else if text.broken then ['\n'] else []) ++ List.replicate text.empty '\n'
  { reversed := line.reverse ++ separator.reverse ++ text.reversed
    broken := broken
    empty := 0
    indented := indented
    started := true }

/-- The text of a block. -/
def finish (chomp : Chomp) (text : BlockText) : List Char :=
  let last := if text.broken then ['\n'] else []
  text.reversed.reverse ++
    match chomp with
    | .strip => []
    | .clip => last
    | .keep => last ++ List.replicate text.empty '\n'

end BlockText

/-- Read the lines of a block. -/
def blockLines? (header : BlockHeader) (indent : Nat) :
    Nat → BlockText → Cells → Option (BlockText × Cells)
  | 0, text, cells => some (text, cells)
  | _, text, [] => some (text, [])
  | fuel + 1, text, cells =>
    let (line, broken, rest) := blockLine cells
    let spaces := leadingSpaces line
    if spaces = line.length && spaces ≤ indent then
      if broken then blockLines? header indent fuel { text with empty := text.empty + 1 } rest
      else some (text, rest)
    else if indent ≤ spaces then
      blockLines? header indent fuel (text.addLine header.literal (line.drop indent) broken) rest
    else if (line.drop spaces).head? = some '\t' then none
    else some (text, cells)

/-- Read a block whose lines are indented at least to a column. -/
def blockScalar? (column : Nat) (cells : Cells) : Option (List Char × Cells) := do
  let (header, rest) ← blockHeader? cells
  let indent := match header.indent with
    | some indent => column - 1 + indent
    | none => blockIndent (max column 1) rest.length rest
  let (text, rest) ← blockLines? header indent (rest.length + 1) {} rest
  return (text.finish header.chomp, rest)

end Yaml

end Caretaker
