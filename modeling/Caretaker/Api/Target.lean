import Caretaker.Text.Digit
import Caretaker.Text.Split

/-!
# Targets of requests

A target names what a request is about: a path, and a query of names and values.  The text of a path
ends at a number sign, and at a question mark its query begins.  A text with a character that no
target may hold is none.
-/

namespace Caretaker

/-- The path and the query of a request. -/
structure Target where
  path : String
  query : List (String × String) := []
  deriving DecidableEq, Repr, Inhabited

namespace Target

/-- Whether a character may stand in a path. -/
def isPathChar (char : Char) : Bool :=
  0x21 ≤ char.toNat && char ∉ ['#', '<', '>', '?', '`']

/-- Whether a character may stand in a query. -/
def isQueryChar (char : Char) : Bool :=
  0x21 ≤ char.toNat && char ∉ ['"', '#', '<', '>']

/-- The bytes that an escaped text stands for: a plus sign is a space, and a percent sign with two
hexadecimal digits is a byte. -/
def unescapeBytes : List Char → List UInt8
  | [] => []
  | '+' :: rest => 0x20 :: unescapeBytes rest
  | '%' :: high :: low :: rest =>
    match Digit.number? 16 [high, low] with
    | some byte => UInt8.ofNat byte :: unescapeBytes rest
    | none => 0x25 :: unescapeBytes (high :: low :: rest)
  | char :: rest => (String.singleton char).toUTF8.toList ++ unescapeBytes rest

/-- The text that an escaped text stands for. -/
def unescape (text : String) : String :=
  (String.fromUTF8? ⟨(unescapeBytes text.toList).toArray⟩).getD text

/-- The pairs of a query. -/
def queryPairs (text : String) : List (String × String) :=
  (splitText '&' text).filterMap fun pair =>
    if pair = "" then none
    else
      let name := pair.toList.takeWhile (· ≠ '=')
      let value := (pair.toList.dropWhile (· ≠ '=')).drop 1
      some (unescape (String.ofList name), unescape (String.ofList value))

/-- Read a target; `query` is the query that follows the text. -/
def ofText? (text : String) (query : List (String × String)) : Option Target :=
  let chars := text.toList.takeWhile (· ≠ '#')
  let path := chars.takeWhile (· ≠ '?')
  let rest := (chars.dropWhile (· ≠ '?')).drop 1
  if path.all isPathChar && rest.all isQueryChar then
    some {
      path := String.ofList path
      query := queryPairs (String.ofList rest) ++ if '#' ∈ text.toList then [] else query }
  else none

end Target

end Caretaker
