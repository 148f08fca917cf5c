/-!
# Quoted texts

A text between quotes on one line: quotes, backslashes and control characters are escaped.
-/

namespace Caretaker

/-- The digits of a number to the base 16. -/
def hexDigits (value : Nat) : String := String.ofList (Nat.toDigits 16 value)

/-- Whether a character is a control character or a separator of lines or paragraphs. -/
def isControl (char : Char) : Bool :=
  let code := char.toNat
  code < 0x20 || (0x7F ≤ code && code < 0xA0) || code = 0xAD || (0x200B ≤ code && code ≤ 0x200F) ||
    (0x2028 ≤ code && code ≤ 0x202E) || (0x2060 ≤ code && code ≤ 0x206F) || code = 0xFEFF

/-- A character as it stands in a quoted text. -/
def quotedChar (char : Char) : String :=
  match char with
  | '"' => "\\\""
  | '\\' => "\\\\"
  | '\n' => "\\n"
  | '\r' => "\\r"
  | '\t' => "\\t"
  | '\x00' => "\\0"
  | char =>
    if isControl char then "\\u\x7b" ++ hexDigits char.toNat ++ "\x7d" else String.singleton char

/-- A text between quotes. -/
def quotedText (text : String) : String :=
  "\"" ++ String.join (text.toList.map quotedChar) ++ "\""

end Caretaker
