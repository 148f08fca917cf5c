import Caretaker.Json.Basic
import Caretaker.Text.Digit
import Caretaker.Text.Split

/-!
# Places in a JSON document

A path is a list of tokens: the name of a member of an object, or the position of an item of an
array.  `Json.at?` reads the value at a path.  `Json.addAt?` and `Json.removeAt?` write there; they
only go through objects, and they fail where the path has no parent.  A pointer is a path in one
text, each token after a slash.
-/

namespace Caretaker

namespace Json

/-- The position that a token names in an array: decimal digits without a leading zero. -/
def position? (token : String) : Option Nat :=
  match token.toList with
  | [] => none
  | ['0'] => some 0
  | '0' :: _ => none
  | digits =>
    if digits.all Char.isDigit then some (Digit.decimal digits) else none

/-- The value that one token leads to. -/
def child? (document : Json) (token : String) : Option Json :=
  match document with
  | .object members => Assoc.get? members token
  | .array items => (position? token).bind fun position => items[position]?
  | _ => none

/-- The value at a path. -/
def at? (document : Json) : List String → Option Json
  | [] => some document
  | token :: rest => (document.child? token).bind fun child => child.at? rest

/-- Write a value at a path whose parent is an object of the document. -/
def addAt? (document : Json) : List String → Json → Option Json
  | [], value => some value
  | [name], value =>
    match document with
    | .object members => some (.object (Assoc.insert members name value))
    | _ => none
  | name :: next :: rest, value =>
    match document with
    | .object members =>
      match Assoc.get? members name with
      | none => none
      | some child =>
        (child.addAt? (next :: rest) value).map fun written =>
          .object (Assoc.insert members name written)
    | _ => none

/-- Take the value at a path out of the object that holds it. -/
def removeAt? (document : Json) : List String → Option Json
  | [] => none
  | [name] =>
    match document with
    | .object members =>
      if (Assoc.get? members name).isSome then some (.object (Assoc.erase members name)) else none
    | _ => none
  | name :: next :: rest =>
    match document with
    | .object members =>
      match Assoc.get? members name with
      | none => none
      | some child =>
        (child.removeAt? (next :: rest)).map fun written =>
          .object (Assoc.insert members name written)
    | _ => none

namespace Pointer

/-- A token without its escapes: `~1` stands for a slash and `~0` for a tilde. -/
def unescape : List Char → List Char
  | '~' :: '0' :: rest => '~' :: unescape rest
  | '~' :: '1' :: rest => '/' :: unescape rest
  | c :: rest => c :: unescape rest
  | [] => []

/-- The path that a pointer stands for; a pointer is empty or begins with a slash. -/
def tokens? (pointer : String) : Option (List String) :=
  match pointer.toList with
  | [] => some []
  | '/' :: rest => some ((rest.splitOn '/').map fun part => String.ofList (unescape part))
  | _ => none

end Pointer

/-- The value that a pointer leads to. -/
def pointer? (document : Json) (pointer : String) : Option Json :=
  (Pointer.tokens? pointer).bind document.at?

theorem at?_cons (document : Json) (token : String) (rest : List String) :
    document.at? (token :: rest) = (document.child? token).bind fun child => child.at? rest := rfl

/-- A path is followed piece by piece. -/
theorem at?_append (document : Json) (path rest : List String) :
    document.at? (path ++ rest) = (document.at? path).bind fun child => child.at? rest := by
  induction path generalizing document with
  | nil => rfl
  | cons token path ih =>
    rw [List.cons_append, at?_cons, at?_cons]
    cases document.child? token with
    | none => rfl
    | some child => exact ih child

end Json

end Caretaker
