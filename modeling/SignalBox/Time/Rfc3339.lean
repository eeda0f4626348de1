import SignalBox.Time.Timestamp
import SignalBox.Text.Blank
import SignalBox.Text.Numeral

namespace SignalBox
namespace Time
namespace Rfc3339

/-!
# Timestamps as text

Timestamps are written by RFC 3339 in Coordinated Universal Time: no fraction, or one of
three, six or nine digits, whichever is the shortest that keeps the nanoseconds.  Reading
is more generous.  It accepts any offset, blanks between the parts, numbers without
leading zeros, a year with a sign and any number of digits, and fractions of any length,
of which the first nine digits count.
-/

open Text

/-- A reader of a value at the head of a text. -/
abbrev Reader (α : Type) := List Char → Option (α × List Char)

/-- Read a number of at least one and at most `width` digits after any blanks. -/
def number (width : Nat) : Reader Nat := fun text =>
  let unread := skipBlanks text
  let digits := (unread.take width).takeWhile Char.isDigit
  if digits.isEmpty then none else some (Numeral.value digits, unread.drop digits.length)

/-- Read a year: four digits at most, or a sign and any number of digits. -/
def year : Reader Int := fun text =>
  match skipBlanks text with
  | '-' :: rest => if rest.head?.any Char.isDigit then
      (number rest.length rest).map fun read => (-(read.1 : Int), read.2) else none
  | '+' :: rest => if rest.head?.any Char.isDigit then
      (number rest.length rest).map fun read => ((read.1 : Int), read.2) else none
  | rest => (number 4 rest).map fun read => ((read.1 : Int), read.2)

/-- Read a separator after any blanks. -/
def separator (expected : Char) : Reader Unit := fun text =>
  match skipBlanks text with
  | head :: rest => if head == expected then some ((), rest) else none
  | [] => none

/-- Read a date. -/
def date : Reader Date := fun text => do
  let (year, rest) ← year text
  let (_, rest) ← separator '-' rest
  let (month, rest) ← number 2 rest
  let (_, rest) ← separator '-' rest
  let (day, rest) ← number 2 rest
  some (⟨year, month, day⟩, rest)

/-- The nanoseconds of the digits of a fraction. -/
def nanoseconds (digits : List Char) : Nat :=
  let kept := digits.take 9
  Numeral.value kept * Nat.pow 10 (9 - kept.length)

/-- Read the fraction of a second, if there is one. -/
def fraction : Reader Nat
  | '.' :: rest =>
    let digits := rest.takeWhile Char.isDigit
    if digits.isEmpty then none else some (nanoseconds digits, rest.dropWhile Char.isDigit)
  | rest => some (0, rest)

/-- Read a time of day as its second and nanosecond.  Second sixty is a leap second. -/
def timeOfDay : Reader (Nat × Nat) := fun text => do
  let (hour, rest) ← number 2 text
  let (_, rest) ← separator ':' rest
  let (minute, rest) ← number 2 rest
  let (_, rest) ← separator ':' rest
  let (second, rest) ← number 2 rest
  let (nanosecond, rest) ← fraction rest
  if 23 < hour ∨ 59 < minute ∨ 60 < second then none
  else if second = 60 then
    some ((hour * 3600 + minute * 60 + 59, perSecond + nanosecond), rest)
  else
    some ((hour * 3600 + minute * 60 + second, nanosecond), rest)

/-- Read two digits. -/
def twoDigits : Reader Nat
  | tens :: ones :: rest =>
    if tens.isDigit && ones.isDigit then some (Numeral.value [tens, ones], rest) else none
  | _ => none

/-- Read an offset of hours and minutes after its sign, in seconds. -/
def unsignedOffset : Reader Int := fun text => do
  let (hours, rest) ← twoDigits text
  let (minutes, rest) ← twoDigits (rest.dropWhile fun c => c == ':' || isBlank c)
  if 59 < minutes ∨ 24 ≤ hours then none
  else some ((hours * 3600 + minutes * 60 : Nat), rest)

/-- Read an offset from Coordinated Universal Time, in seconds. -/
def offset : Reader Int
  | '+' :: rest => unsignedOffset rest
  | sign :: rest =>
    if sign == '-' || sign == '\u2212' then
      (unsignedOffset rest).map fun read => (-read.1, read.2)
    else if sign == 'Z' || sign == 'z' then some (0, rest)
    else if (sign :: rest).take 3 |>.map Char.toUpper |> (· == ['U', 'T', 'C']) then
      some (0, rest.drop 2)
    else none
  | [] => none

/-- Read a whole text as a timestamp. -/
def read? (text : String) : Option Timestamp := do
  let (date, rest) ← date text.toList
  let (mark, rest) ← match rest with
    | [] => none
    | mark :: rest => some (mark, rest)
  if !(mark == 'T' || mark == 't' || mark == ' ') then none
  let ((second, nanosecond), rest) ← timeOfDay rest
  let (offset, rest) ← offset (skipBlanks rest)
  if !(skipBlanks rest).isEmpty || !date.isValid then none
  let moved := (second : Int) - offset
  let wallClock : Timestamp := ⟨date.dayNumber, second, nanosecond⟩
  let instant : Timestamp :=
    ⟨date.dayNumber + moved / perDay, (moved % perDay).toNat, nanosecond⟩
  if wallClock.inRange && instant.inRange then some instant else none

/-- A number with leading zeros up to a width. -/
def padded (width number : Nat) : String :=
  let digits := Numeral.write number
  String.ofList (List.replicate (width - digits.length) '0' ++ digits)

/-- A year: four digits, with a sign outside the years 0 to 9999. -/
def writeYear (year : Int) : String :=
  if 0 ≤ year ∧ year ≤ 9999 then padded 4 year.toNat
  else (if year < 0 then "-" else "+") ++ padded 4 year.natAbs

/-- The fraction of a second: none, or the fewest of three, six and nine digits. -/
def writeFraction (nanosecond : Nat) : String :=
  if nanosecond = 0 then ""
  else if nanosecond % 1000000 = 0 then "." ++ padded 3 (nanosecond / 1000000)
  else if nanosecond % 1000 = 0 then "." ++ padded 6 (nanosecond / 1000)
  else "." ++ padded 9 nanosecond

/-- A timestamp as text, in Coordinated Universal Time. -/
def write (instant : Timestamp) : String :=
  let date := Date.ofDayNumber instant.day
  let leap := instant.inLeapSecond
  let second := instant.second % 60 + if leap then 1 else 0
  let nanosecond := if leap then instant.nanosecond - perSecond else instant.nanosecond
  writeYear date.year ++ "-" ++ padded 2 date.month ++ "-" ++ padded 2 date.day ++ "T" ++
    padded 2 (instant.second / 3600) ++ ":" ++ padded 2 (instant.second / 60 % 60) ++ ":" ++
    padded 2 second ++ writeFraction nanosecond ++ "Z"

end Rfc3339
end Time
end SignalBox
