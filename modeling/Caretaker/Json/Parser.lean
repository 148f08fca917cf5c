import Caretaker.Json.Basic
import Caretaker.Text.Digit
import Caretaker.Word

/-!
# Reading JSON text

`Json.parse` reads one document from a text.  Of two members with one name the last counts.  A
document may nest at most 127 containers.  The parser works on the list of characters; `fuel`
bounds its steps and is computed from the length of the text, so it never runs out.
-/

namespace Caretaker

namespace Json

namespace Parser

/-- The blanks between the tokens of a document. -/
def isBlank (c : Char) : Bool := c = ' ' || c = '\t' || c = '\n' || c = '\r'

/-- The text after its leading blanks. -/
def skipBlanks (input : List Char) : List Char := input.dropWhile isBlank

/-- The character that a letter after a backslash stands for. -/
def escape? : Char → Option Char
  | '"' => some '"'
  | '\\' => some '\\'
  | '/' => some '/'
  | 'b' => some '\x08'
  | 'f' => some '\x0c'
  | 'n' => some '\n'
  | 'r' => some '\r'
  | 't' => some '\t'
  | _ => none

/-- Read a text up to its closing quote; `read` holds the characters so far, latest first. -/
def quoted (read : List Char) : List Char → Option (String × List Char)
  | [] => none
  | '"' :: rest => some (String.ofList read.reverse, rest)
  | '\\' :: 'u' :: a :: b :: c :: d :: rest =>
    match Digit.number? 16 [a, b, c, d] with
    | none => none
    | some unit =>
      if 0xD800 ≤ unit ∧ unit < 0xDC00 then
        match rest with
        | '\\' :: 'u' :: e :: f :: g :: h :: rest =>
          match Digit.number? 16 [e, f, g, h] with
          | none => none
          | some low =>
            if 0xDC00 ≤ low ∧ low < 0xE000 then
              quoted (Char.ofNat (0x10000 + (unit - 0xD800) * 0x400 + (low - 0xDC00)) :: read) rest
            else none
        | _ => none
      else if 0xDC00 ≤ unit ∧ unit < 0xE000 then none
      else quoted (Char.ofNat unit :: read) rest
  | '\\' :: c :: rest =>
    match escape? c with
    | none => none
    | some meant => quoted (meant :: read) rest
  | c :: rest => if c.toNat < 0x20 then none else quoted (c :: read) rest

/-- An optional sign: whether it is a minus, and the rest. -/
def sign : List Char → Bool × List Char
  | '-' :: rest => (true, rest)
  | '+' :: rest => (false, rest)
  | rest => (false, rest)

/-- The fraction after a point, if there is a point; a point needs a digit after it. -/
def fraction? : List Char → Option (List Char × List Char)
  | '.' :: rest =>
    let digits := rest.takeWhile Char.isDigit
    if digits.isEmpty then none else some (digits, rest.dropWhile Char.isDigit)
  | rest => some ([], rest)

/-- The exponent, if there is one; its mark needs a digit after it. -/
def exponent? : List Char → Option (Option Int × List Char)
  | c :: rest =>
    if c = 'e' || c = 'E' then
      let (negative, digits) := sign rest
      let value := Digit.decimal (digits.takeWhile Char.isDigit)
      if (digits.takeWhile Char.isDigit).isEmpty then none
      else some (some (if negative then -(value : Int) else value), digits.dropWhile Char.isDigit)
    else some (none, c :: rest)
  | [] => some (none, [])

/-- Integers that fit into 64 bits, signed or not. -/
def fitsInt (value : Int) : Bool := isInt64 value || isNat64 value

/-- Read a number. -/
def number (input : List Char) : Option (Json × List Char) := do
  let (negative, input) := match input with
    | '-' :: rest => (true, rest)
    | rest => (false, rest)
  let whole := input.takeWhile Char.isDigit
  if whole.isEmpty || (1 < whole.length && whole.head? = some '0') then none
  let (fraction, input) ← fraction? (input.dropWhile Char.isDigit)
  let (exponent, input) ← exponent? input
  let size := Digit.decimal (whole ++ fraction)
  let value : Int := if negative then -(size : Int) else size
  if fraction.isEmpty && exponent.isNone && fitsInt value && !(negative && size = 0) then
    return (.int value, input)
  else
    return (.decimal ⟨negative, size, exponent.getD 0 - fraction.length⟩, input)

mutual

/-- Read one value; `depth` is how many containers may still be opened. -/
def value : (fuel depth : Nat) → List Char → Option (Json × List Char)
  | 0, _, _ => none
  | fuel + 1, depth, input =>
    match skipBlanks input with
    | 'n' :: 'u' :: 'l' :: 'l' :: rest => some (.null, rest)
    | 't' :: 'r' :: 'u' :: 'e' :: rest => some (.bool true, rest)
    | 'f' :: 'a' :: 'l' :: 's' :: 'e' :: rest => some (.bool false, rest)
    | '"' :: rest => (quoted [] rest).map fun (read, rest) => (.text read, rest)
    | '[' :: rest =>
      match depth, skipBlanks rest with
      | 0, _ => none
      | _, ']' :: rest => some (.array [], rest)
      | depth + 1, rest => items fuel depth [] rest
    | '{' :: rest =>
      match depth, skipBlanks rest with
      | 0, _ => none
      | _, '}' :: rest => some (.object [], rest)
      | depth + 1, rest => members fuel depth [] rest
    | input => number input

/-- Read the items of an array up to its closing bracket; `read` holds them latest first. -/
def items : (fuel depth : Nat) → List Json → List Char → Option (Json × List Char)
  | 0, _, _, _ => none
  | fuel + 1, depth, read, input =>
    match value fuel depth input with
    | none => none
    | some (item, rest) =>
      match skipBlanks rest with
      | ',' :: rest => items fuel depth (item :: read) rest
      | ']' :: rest => some (.array (item :: read).reverse, rest)
      | _ => none

/-- Read the members of an object up to its closing brace; `read` holds them latest first. -/
def members : (fuel depth : Nat) → Members → List Char → Option (Json × List Char)
  | 0, _, _, _ => none
  | fuel + 1, depth, read, input =>
    match skipBlanks input with
    | '"' :: rest =>
      match quoted [] rest with
      | none => none
      | some (name, rest) =>
        match skipBlanks rest with
        | ':' :: rest =>
          match value fuel depth rest with
          | none => none
          | some (item, rest) =>
            match skipBlanks rest with
            | ',' :: rest => members fuel depth ((name, item) :: read) rest
            | '}' :: rest => some (ofMembers ((name, item) :: read).reverse, rest)
            | _ => none
        | _ => none
    | _ => none

end

/-- The number of containers that may be open at once. -/
def maxDepth : Nat := 127

end Parser

/-- The document that a text holds, if it holds exactly one. -/
def parse (input : String) : Option Json :=
  let chars := input.toList
  match Parser.value (2 * chars.length + 2) Parser.maxDepth chars with
  | some (document, rest) => if (Parser.skipBlanks rest).isEmpty then some document else none
  | none => none

end Json

end Caretaker
