import Caretaker.Json.Basic

/-!
# Writing JSON text

`Json.render` writes a document without blanks, the members of an object in the order in which the
document holds them.  A quote, a backslash and the control characters are escaped, every other
character stands for itself.
-/

namespace Caretaker

namespace Json

/-- How a character is written inside a quoted text. -/
def escaped (c : Char) : List Char :=
  match c with
  | '"' => ['\\', '"']
  | '\\' => ['\\', '\\']
  | '\x08' => ['\\', 'b']
  | '\x0c' => ['\\', 'f']
  | '\n' => ['\\', 'n']
  | '\r' => ['\\', 'r']
  | '\t' => ['\\', 't']
  | _ =>
    if c.toNat < 0x20 then
      ['\\', 'u', '0', '0', (c.toNat / 16).digitChar, (c.toNat % 16).digitChar]
    else [c]

/-- A text between quotes. -/
def quote (value : String) : String :=
  "\"" ++ String.ofList (value.toList.flatMap escaped) ++ "\""

/-- A decimal number, always with an exponent. -/
def renderDecimal (value : Decimal) : String :=
  (if value.negative then "-" else "") ++ toString value.digits ++ "e" ++ toString value.exponent

mutual

/-- The text of a document. -/
def render : Json → String
  | .null => "null"
  | .bool true => "true"
  | .bool false => "false"
  | .int value => toString value
  | .decimal value => renderDecimal value
  | .text value => quote value
  | .array items => "[" ++ renderItems items ++ "]"
  | .object members => "\x7b" ++ renderMembers members ++ "\x7d"

/-- The items of an array, separated by commas. -/
def renderItems : List Json → String
  | [] => ""
  | [item] => render item
  | item :: rest => render item ++ "," ++ renderItems rest

/-- The members of an object, separated by commas. -/
def renderMembers : List (String × Json) → String
  | [] => ""
  | [(name, value)] => quote name ++ ":" ++ render value
  | (name, value) :: rest => quote name ++ ":" ++ render value ++ "," ++ renderMembers rest

end

end Json

end Caretaker
