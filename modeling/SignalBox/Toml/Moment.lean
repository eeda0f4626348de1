import SignalBox.Time.Calendar
import SignalBox.Toml.Text

namespace SignalBox
namespace Toml

/-!
# Dates and times of configuration files

A moment is a date, a time of day, or a date with a time of day and perhaps an offset behind
it.  No setting is a moment, so only where one ends is of interest.
-/

/-- Read a number of exactly so many digits, which is in a range. -/
def numberWithin (width least greatest : Nat) : Reader Nat := fun text => do
  let digits := text.take width
  if digits.length < width then none
  let number ← numberIn? 10 digits
  if least ≤ number ∧ number ≤ greatest then some (number, text.drop width) else none

/-- The text behind a character at its head. -/
def behind (mark : Char) : List Char → Option (List Char)
  | c :: rest => if c = mark then some rest else none
  | [] => none

/-- Skip a date. -/
def skipDate (text : List Char) : Option (List Char) := do
  let (year, rest) ← numberWithin 4 0 9999 text
  let (month, rest) ← numberWithin 2 1 12 (← behind '-' rest)
  let (_, rest) ← numberWithin 2 1 (Time.Date.daysInMonth year month) (← behind '-' rest)
  some rest

/-- Skip an hour and a minute. -/
def skipMinute (text : List Char) : Option (List Char) := do
  let (_, rest) ← numberWithin 2 0 23 text
  let (_, rest) ← numberWithin 2 0 59 (← behind ':' rest)
  some rest

/-- Skip a time of day, with a fraction of a second where there is one. -/
def skipTime (text : List Char) : Option (List Char) := do
  let rest ← skipMinute text
  let (_, rest) ← numberWithin 2 0 60 (← behind ':' rest)
  match rest with
  | '.' :: fraction =>
    if (fraction.takeWhile Char.isDigit).isEmpty then none
    else some (fraction.dropWhile Char.isDigit)
  | rest => some rest

/-- Skip an offset from universal time, if there is one. -/
def skipOffset : List Char → Option (List Char)
  | 'Z' :: rest => some rest
  | 'z' :: rest => some rest
  | '+' :: rest => skipMinute rest
  | '-' :: rest => skipMinute rest
  | rest => some rest

/-- Skip a moment.  A blank may stand between a date and a time of day, but need not lead
to one. -/
def skipMoment (text : List Char) : Option (List Char) :=
  match skipDate text with
  | none => skipTime text
  | some (' ' :: rest) => some (((skipTime rest).bind skipOffset).getD (' ' :: rest))
  | some ('T' :: rest) => (skipTime rest).bind skipOffset
  | some ('t' :: rest) => (skipTime rest).bind skipOffset
  | some rest => some rest

end Toml
end SignalBox
