import Caretaker.Yaml.Scalar

/-!
# Reading YAML

`Yaml.parse` reads a text that holds one document.  Nodes inside brackets may go over lines as they
like; everywhere else a node belongs to the mapping or sequence that it is indented under.
-/

namespace Caretaker

namespace Yaml

/-- The next token inside brackets. -/
def skipFlow : Nat → Cells → Cells
  | 0, cells => cells
  | fuel + 1, cells =>
    let after := (gap 0 false cells).rest
    match after with
    | ⟨'#', column⟩ :: _ =>
      if after.length < cells.length || column = 0 then skipFlow fuel after.skipLine else after
    | after => after

/-- Read a scalar inside brackets. -/
def flowScalar? (cells : Cells) : Option (Yaml × Cells) :=
  match cells with
  | [] => none
  | ⟨char, _⟩ :: rest =>
    if char = '"' || char = '\'' then
      (quotedScalar? cells).map fun scalar => (quoted scalar.toText, scalar.rest)
    else if startsPlain true char rest then do
      let scalar ← plainScalar? true 0 cells.length cells
      match skipFlow cells.length scalar.rest with
      | ⟨':', _⟩ :: next :: _ =>
        if next.char = '?' || isFlowIndicator next.char then none
        else return (plain scalar.toText, scalar.rest)
      | _ => return (plain scalar.toText, scalar.rest)
    else none

mutual

/-- Read a node inside brackets. -/
def flowNode? : Nat → Cells → Option (Yaml × Cells)
  | 0, _ => none
  | fuel + 1, cells =>
    match cells with
    | ⟨'[', _⟩ :: rest =>
      (flowItems? fuel (skipFlow rest.length rest)).map fun read => (sequence read.1, read.2)
    | ⟨'{', _⟩ :: rest =>
      (flowEntries? fuel (skipFlow rest.length rest)).map fun read => (mapping read.1, read.2)
    | cells => flowScalar? cells

/-- Read the items of a sequence up to the bracket that closes it. -/
def flowItems? : Nat → Cells → Option (List Yaml × Cells)
  | 0, _ => none
  | fuel + 1, cells =>
    match cells with
    | ⟨']', _⟩ :: rest => some ([], rest)
    | cells => do
      let (item, rest) ← flowNode? fuel cells
      match skipFlow rest.length rest with
      | ⟨',', _⟩ :: rest =>
        let (items, rest) ← flowItems? fuel (skipFlow rest.length rest)
        return (item :: items, rest)
      | ⟨']', _⟩ :: rest => return ([item], rest)
      | _ => none

/-- Read the entries of a mapping up to the bracket that closes it. -/
def flowEntries? : Nat → Cells → Option (List (String × Yaml) × Cells)
  | 0, _ => none
  | fuel + 1, cells =>
    match cells with
    | ⟨'}', _⟩ :: rest => some ([], rest)
    | cells => do
      let (key, rest) ← flowScalar? cells
      let name ← key.text?
      let (value, rest) ← flowValue? fuel (skipFlow rest.length rest)
      match skipFlow rest.length rest with
      | ⟨',', _⟩ :: rest =>
        let (entries, rest) ← flowEntries? fuel (skipFlow rest.length rest)
        return ((name, value) :: entries, rest)
      | ⟨'}', _⟩ :: rest => return ([(name, value)], rest)
      | _ => none

/-- Read the value of an entry, which may be left out. -/
def flowValue? : Nat → Cells → Option (Yaml × Cells)
  | 0, _ => none
  | fuel + 1, cells =>
    match cells with
    | ⟨':', _⟩ :: rest =>
      match skipFlow rest.length rest with
      | ⟨',', column⟩ :: rest => some (absent, ⟨',', column⟩ :: rest)
      | ⟨'}', column⟩ :: rest => some (absent, ⟨'}', column⟩ :: rest)
      | rest => flowNode? fuel rest
    | cells => some (absent, cells)

end

/-- Whether an item of a sequence begins here. -/
def atItem : Cells → Bool
  | ⟨'-', _⟩ :: rest => Cells.atSpace rest
  | _ => false

/-- Read the key of an entry, which stands on one line, and the colon after it. -/
def blockKey? (cells : Cells) : Option (String × Cells) := do
  let scalar ← match cells with
    | [] => none
    | ⟨char, _⟩ :: rest =>
      if char = '"' || char = '\'' then quotedScalar? cells
      else if startsPlain false char rest then some (plainLine cells.length cells)
      else none
  if scalar.broken then none
  else
    match scalar.rest.skipBlanks with
    | ⟨':', _⟩ :: rest => if Cells.atSpace rest then return (scalar.toText, rest) else none
    | _ => none

/-- Read a node that ends with a line: one inside brackets, or a scalar whose lines are indented to
a column. -/
def lineNode? (column : Nat) (cells : Cells) : Option (Yaml × Cells) := do
  match cells with
  | [] => none
  | ⟨char, _⟩ :: rest =>
    let (node, rest) ←
      if char = '[' || char = '{' then flowNode? (2 * cells.length + 2) cells
      else if char = '"' || char = '\'' then
        (quotedScalar? cells).map fun scalar => (quoted scalar.toText, scalar.rest)
      else if startsPlain false char rest then
        (plainScalar? false column cells.length cells).map fun scalar =>
          (plain scalar.toText, scalar.rest)
      else none
    return (node, ← rest.endOfLine?)

/-- Read a scalar in a block, or a node that ends with a line. -/
def inlineNode? (column : Nat) (cells : Cells) : Option (Yaml × Cells) :=
  match cells with
  | ⟨'|', _⟩ :: _ | ⟨'>', _⟩ :: _ =>
    (blockScalar? column cells).map fun read => (quoted (String.ofList read.1), read.2)
  | cells => lineNode? column cells

mutual

/-- Read a node that begins on a line of its own, or behind the dash of an item; its lines are
indented to a column. -/
def blockNode? (column : Nat) : Nat → Cells → Option (Yaml × Cells)
  | 0, _ => none
  | fuel + 1, cells =>
    match cells with
    | [] => none
    | cell :: _ =>
      if atItem cells then
        (blockItems? cell.column fuel cells).map fun read => (sequence read.1, read.2)
      else if (blockKey? cells).isSome then
        (blockEntries? cell.column fuel cells).map fun read => (mapping read.1, read.2)
      else inlineNode? column cells

/-- Read the items of a sequence in a column. -/
def blockItems? (column : Nat) : Nat → Cells → Option (List Yaml × Cells)
  | 0, _ => none
  | fuel + 1, cells => do
    let inline := Cells.skipSpaces (cells.drop 1)
    let (item, rest) ←
      if inline.atBreak || inline.head?.any (·.char = '#') then blockBelow? (column + 1) fuel inline
      else blockNode? (column + 1) fuel inline
    let next := rest.skipLines rest.length
    if atItem next && next.head?.any (·.column = column) then
      let (items, rest) ← blockItems? column fuel next
      return (item :: items, rest)
    else return ([item], next)

/-- Read a node on the lines below, if one is indented to a column. -/
def blockBelow? (column : Nat) : Nat → Cells → Option (Yaml × Cells)
  | 0, _ => none
  | fuel + 1, cells =>
    let next := cells.skipLines cells.length
    match next with
    | [] => some (absent, [])
    | cell :: _ =>
      if next.atDocumentMarker || cell.column < column then some (absent, next)
      else blockNode? column fuel next

/-- Read the entries of a mapping in a column. -/
def blockEntries? (column : Nat) : Nat → Cells → Option (List (String × Yaml) × Cells)
  | 0, _ => none
  | fuel + 1, cells => do
    let (name, rest) ← blockKey? cells
    let (value, rest) ← blockValue? column fuel rest
    let next := rest.skipLines rest.length
    match next with
    | [] => return ([(name, value)], [])
    | cell :: _ =>
      if next.atDocumentMarker || cell.column < column then return ([(name, value)], next)
      else if cell.column = column then
        let (entries, rest) ← blockEntries? column fuel next
        return ((name, value) :: entries, rest)
      else none

/-- Read the value of an entry in a column: behind the colon, or on the lines below. -/
def blockValue? (column : Nat) : Nat → Cells → Option (Yaml × Cells)
  | 0, _ => none
  | fuel + 1, cells =>
    let inline := cells.skipBlanks
    if inline.atBreak || inline.head?.any (·.char = '#') then
      let next := cells.skipLines cells.length
      if atItem next && next.head?.any (·.column = column) then
        (blockItems? column fuel next).map fun read => (sequence read.1, read.2)
      else blockBelow? (column + 1) fuel cells
    else inlineNode? (column + 1) inline

end

/-- Whether nothing but comments is left of a text. -/
def isOver (cells : Cells) : Bool :=
  match cells.skipLines cells.length with
  | [] => true
  | next => next.atMarker '.' && (Cells.endOfLine? (next.drop 3)).any fun rest =>
      (rest.skipLines rest.length).isEmpty

/-- Read the node of a document. -/
def document? (cells : Cells) : Option Yaml := do
  let next := cells.skipLines cells.length
  if next.isEmpty || next.atDocumentMarker then
    if isOver next then return absent else none
  else
    let (node, rest) ← blockNode? 0 (4 * next.length + 8) next
    if isOver rest then return node else none

/-- Read a text that holds one document. -/
def parse (text : String) : Option Yaml := do
  let chars := match text.toList with
    | '\ufeff' :: rest => rest
    | chars => chars
  if chars.all isPrintable then
    let cells := cellsFrom 0 (unifyBreaks chars)
    let next := cells.skipLines cells.length
    if next.atMarker '-' then
      let inline := Cells.skipBlanks (next.drop 3)
      if inline.atBreak || inline.head?.any (·.char = '#') then document? (next.drop 3)
      else
        let (node, rest) ← lineNode? 0 inline
        if isOver rest then return node else none
    else document? cells
  else none

end Yaml

end Caretaker
