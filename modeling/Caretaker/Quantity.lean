import Caretaker.Text.Utf8

/-!
# Quantities

A quantity is an optionally signed decimal number followed by a suffix: none, a decimal unit, a
binary unit, or a decimal exponent.  It stays the text it is written as; `Quantity.parse?` only
tells quantities from other texts.  The number is looked for byte by byte (`Quantity.numeral`); the
text is then cut where the number ends.
-/

namespace Caretaker

/-- An amount of a resource, as it is written. -/
abbrev Quantity := String

namespace Quantity

/-- Whether a byte is a decimal digit. -/
def isDigitByte (byte : UInt8) : Bool := '0'.toUInt8 ≤ byte && byte ≤ '9'.toUInt8

/-- Whether a byte is a sign. -/
def isSignByte (byte : UInt8) : Bool := byte = '+'.toUInt8 || byte = '-'.toUInt8

/-- Whether a byte is a decimal point. -/
def isPointByte (byte : UInt8) : Bool := byte = '.'.toUInt8

/-- The number of digits from a byte on. -/
def digitsFrom (bytes : List UInt8) (position : Nat) : Nat :=
  ((bytes.drop position).takeWhile isDigitByte).length

/-- What the number at the start of a text is found to be. -/
structure Numeral where
  /-- The byte after the number. -/
  stop : Nat
  /-- How many digits the number has. -/
  digits : Nat
  deriving DecidableEq, Repr

/-- The number at the start of a text: a sign and a point may be missing, and so may all digits. -/
def numeral (bytes : List UInt8) : Numeral :=
  let start := if bytes.head?.any isSignByte then 1 else 0
  let whole := digitsFrom bytes start
  let point := start + whole
  if bytes[point]?.any isPointByte then
    let decimals := digitsFrom bytes (point + 1)
    ⟨point + 1 + decimals, whole + decimals⟩
  else ⟨point, whole⟩

/-- The suffixes that name a unit, among them the empty one. -/
def units : List String :=
  ["", "n", "u", "m", "k", "M", "G", "T", "P", "E", "Ki", "Mi", "Gi", "Ti", "Pi", "Ei"]

/-- The characters after an optional sign. -/
def unsigned : List Char → List Char
  | '+' :: rest => rest
  | '-' :: rest => rest
  | rest => rest

/-- Whether a suffix is a decimal exponent: a mark, an optional sign and at least one digit. -/
def isExponent (suffix : String) : Bool :=
  match suffix.toList with
  | 'e' :: rest | 'E' :: rest =>
    !(unsigned rest).isEmpty && (utf8 (unsigned rest)).all isDigitByte
  | _ => false

/-- Whether a suffix may follow the number. -/
def isSuffix (suffix : String) : Bool := units.contains suffix || isExponent suffix

/-- The quantity that a text is, unchanged. -/
def parse? (text : String) : Option Quantity :=
  let number := numeral (bytes text)
  if number.digits = 0 then none
  else if (textFrom? text number.stop).any isSuffix then some text else none

/-- The quantity that a text is, or `fallback`. -/
def parseD (text : String) (fallback : Quantity) : Quantity := (parse? text).getD fallback

end Quantity

end Caretaker
