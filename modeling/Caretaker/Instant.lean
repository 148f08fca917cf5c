import Caretaker.Text.Blank
import Caretaker.Text.Digit

/-!
# Instants

A moment in universal time, to the second, such as `2024-02-29T23:59:07Z`.  A text may give it in
the time of another zone, with a fraction of a second and with white space between its parts
(`Instant.parse?`).  It is written in one form only (`Instant.text`).
-/

namespace Caretaker

/-- A date of the calendar; the year before the year 1 is the year 0. -/
structure Date where
  year : Int
  month : Nat
  day : Nat
  deriving DecidableEq, Repr

namespace Date

/-- Whether a year has a 29th of February. -/
def isLeapYear (year : Int) : Bool := year % 4 = 0 && (year % 100 ≠ 0 || year % 400 = 0)

/-- The number of days of a month. -/
def daysOfMonth (year : Int) (month : Nat) : Nat :=
  if month = 2 then (if isLeapYear year then 29 else 28)
  else if month ∈ [4, 6, 9, 11] then 30
  else 31

/-- Whether a date is in the calendar, whose years have a first and a last one. -/
def isValid (date : Date) : Bool :=
  -262143 ≤ date.year && date.year ≤ 262142 && 1 ≤ date.month && date.month ≤ 12 &&
    1 ≤ date.day && date.day ≤ daysOfMonth date.year date.month

/-- The day after a date. -/
def next (date : Date) : Date :=
  if date.day < daysOfMonth date.year date.month then { date with day := date.day + 1 }
  else if date.month < 12 then ⟨date.year, date.month + 1, 1⟩
  else ⟨date.year + 1, 1, 1⟩

/-- The day before a date. -/
def previous (date : Date) : Date :=
  if 1 < date.day then { date with day := date.day - 1 }
  else if 1 < date.month then
    ⟨date.year, date.month - 1, daysOfMonth date.year (date.month - 1)⟩
  else ⟨date.year - 1, 12, 31⟩

end Date

/-- A moment in universal time: a date, a minute of the day and a second; a leap second is the 60th
of its minute. -/
structure Instant where
  date : Date
  minute : Nat
  second : Nat
  date_isValid : date.isValid = true
  minute_lt : minute < 24 * 60
  second_le : second ≤ 60
  deriving DecidableEq

namespace Instant

/-- The instant that numbers stand for, if they stand for one. -/
def of? (date : Date) (minute second : Nat) : Option Instant :=
  if valid : date.isValid = true ∧ minute < 24 * 60 ∧ second ≤ 60 then
    some ⟨date, minute, second, valid.1, valid.2.1, valid.2.2⟩
  else none

/-- The instant at a local time that is so many minutes ahead of universal time. -/
def ofLocal? (date : Date) (minute second : Nat) (ahead : Int) : Option Instant := do
  let there ← of? date minute second
  let here := there.minute - ahead
  if here < 0 then of? date.previous (here + 24 * 60).toNat second
  else if here < 24 * 60 then of? date here.toNat second
  else of? date.next (here - 24 * 60).toNat second

/-- The first instant of the year 1970. -/
def epoch : Instant := ⟨⟨1970, 1, 1⟩, 0, 0, by decide, by decide, by decide⟩

instance : Inhabited Instant := ⟨epoch⟩

section Reading

/-- The text without white space at its start. -/
def trimStart (text : List Char) : List Char := text.dropWhile isWhiteSpace

/-- Read at least one digit, and no more than `width` digits. -/
def digits? (width : Nat) (text : List Char) : Option (Nat × List Char) :=
  let digits := (text.take width).takeWhile Char.isDigit
  if digits.isEmpty then none else some (Digit.decimal digits, text.drop digits.length)

/-- Read a number behind white space. -/
def number? (width : Nat) (text : List Char) : Option (Nat × List Char) :=
  digits? width (trimStart text)

/-- Read a year, of any length behind a sign and of four digits at most without one. -/
def year? (text : List Char) : Option (Int × List Char) :=
  match trimStart text with
  | '-' :: rest => (digits? rest.length rest).map fun read => (-read.1, read.2)
  | '+' :: rest => (digits? rest.length rest).map fun read => (read.1, read.2)
  | rest => (digits? 4 rest).map fun read => (read.1, read.2)

/-- Read a mark behind white space. -/
def mark? (mark : Char) (text : List Char) : Option (List Char) :=
  match trimStart text with
  | char :: rest => if char = mark then some rest else none
  | [] => none

/-- Read what separates the time from the date. -/
def separator? : List Char → Option (List Char)
  | char :: rest => if char ∈ ['T', 't', ' '] then some rest else none
  | [] => none

/-- Skip the fraction of a second. -/
def skipFraction? : List Char → Option (List Char)
  | '.' :: rest => if rest.head?.any Char.isDigit then some (rest.dropWhile Char.isDigit) else none
  | rest => some rest

/-- Read two digits. -/
def twoDigits? : List Char → Option (Nat × List Char)
  | first :: second :: rest =>
    if first.isDigit && second.isDigit then some (Digit.decimal [first, second], rest) else none
  | _ => none

/-- Read by how many minutes a zone is ahead of universal time. -/
def zone? (text : List Char) : Option (Int × List Char) :=
  if (text.take 3).map Char.toUpper = ['U', 'T', 'C'] then some (0, text.drop 3)
  else
    match text with
    | [] => none
    | sign :: rest =>
      if sign ∈ ['Z', 'z'] then some (0, rest)
      else if sign ∈ ['+', '-', '−'] then do
        let (hours, rest) ← twoDigits? rest
        let (minutes, rest) ← twoDigits? (rest.dropWhile fun char => char = ':' || isWhiteSpace char)
        if hours < 24 && minutes < 60 then
          let minutes : Int := hours * 60 + minutes
          some (if sign = '+' then minutes else -minutes, rest)
        else none
      else none

/-- Read an instant. -/
def parse? (text : String) : Option Instant := do
  let (year, rest) ← year? text.toList
  let (month, rest) ← number? 2 (← mark? '-' rest)
  let (day, rest) ← number? 2 (← mark? '-' rest)
  let (hour, rest) ← number? 2 (← separator? rest)
  let (minute, rest) ← number? 2 (← mark? ':' rest)
  let (second, rest) ← number? 2 (← mark? ':' rest)
  let (ahead, rest) ← zone? (trimStart (← skipFraction? rest))
  if hour < 24 && minute < 60 && (trimStart rest).isEmpty then
    ofLocal? ⟨year, month, day⟩ (hour * 60 + minute) second ahead
  else none

end Reading

section Writing

/-- A number below a hundred in two digits. -/
def twoDigits (number : Nat) : List Char := [(number / 10).digitChar, (number % 10).digitChar]

/-- A number in at least four digits. -/
def fourDigits (number : Nat) : List Char :=
  if number < 10000 then twoDigits (number / 100) ++ twoDigits (number % 100)
  else (toString number).toList

/-- A year, with a sign unless it has four digits. -/
def yearText (year : Int) : List Char :=
  if year < 0 then '-' :: fourDigits year.natAbs
  else if year < 10000 then fourDigits year.natAbs
  else '+' :: fourDigits year.natAbs

/-- The text of an instant. -/
def text (instant : Instant) : String :=
  .ofList (yearText instant.date.year ++ '-' :: twoDigits instant.date.month ++
    '-' :: twoDigits instant.date.day ++ 'T' :: twoDigits (instant.minute / 60) ++
      ':' :: twoDigits (instant.minute % 60) ++ ':' :: twoDigits instant.second ++ ['Z'])

end Writing

end Instant

end Caretaker
