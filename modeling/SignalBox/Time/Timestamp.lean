import SignalBox.Time.Calendar

namespace SignalBox
namespace Time

/-!
# Timestamps

Instants of Coordinated Universal Time to the nanosecond.  A leap second is written into
the second before it: its nanoseconds count on from one second to two.  Elapsed time and
the moving of a clock treat a leap second as one second that only its own day has.
-/

/-- The nanoseconds of a second. -/
def perSecond : Nat := 1000000000

/-- The seconds of a day without leap second. -/
def perDay : Nat := 86400

/-- The nanoseconds of the longest duration: as many milliseconds as 64 bits count with a sign. -/
def longest : Nat := (Nat.pow 2 63 - 1) * 1000000

/-- A length of time to the nanosecond, in either direction: seconds, and a fraction of a second
on top of them.  Half a second backward is half a second on top of minus one. -/
structure Duration where
  seconds : Int
  fraction : Nat
  fraction_lt : fraction < perSecond
  bounded : (seconds * perSecond + fraction).natAbs ≤ longest

namespace Duration

/-- The length in nanoseconds. -/
def nanoseconds (span : Duration) : Int :=
  span.seconds * perSecond + span.fraction

/-- The whole seconds, counted toward zero. -/
def wholeSeconds (span : Duration) : Int :=
  if span.seconds < 0 ∧ 0 < span.fraction then span.seconds + 1 else span.seconds

/-- The nanoseconds beyond the whole seconds, with the sign of the duration. -/
def subsecond (span : Duration) : Int :=
  if span.seconds < 0 ∧ 0 < span.fraction then span.fraction - perSecond else span.fraction

theorem wholeSeconds_add_subsecond (span : Duration) :
    span.wholeSeconds * perSecond + span.subsecond = span.nanoseconds := by
  unfold wholeSeconds subsecond nanoseconds perSecond
  split <;> omega

/-- The duration of a number of milliseconds, unless it is out of bounds. -/
def ofMilliseconds? (milliseconds : Int) : Option Duration :=
  if bounded : milliseconds.natAbs < Nat.pow 2 63 then
    some {
      seconds := milliseconds / 1000
      fraction := (milliseconds % 1000).toNat * 1000000
      fraction_lt := by unfold perSecond; omega
      bounded := by unfold perSecond longest; omega }
  else none

end Duration

/-- An instant: the number of its day, the second of that day and the nanosecond. -/
structure Timestamp where
  day : Int
  second : Nat
  nanosecond : Nat
deriving DecidableEq, Inhabited

namespace Timestamp

/-- The first day that a timestamp can name. -/
def firstDay : Int := (⟨-262143, 1, 1⟩ : Date).dayNumber

/-- The last day that a timestamp can name. -/
def lastDay : Int := (⟨262142, 12, 31⟩ : Date).dayNumber

/-- Whether the instant lies in the years that timestamps cover. -/
def inRange (instant : Timestamp) : Bool :=
  firstDay ≤ instant.day && instant.day ≤ lastDay

/-- Whether the instant lies in a leap second. -/
def inLeapSecond (instant : Timestamp) : Bool :=
  perSecond ≤ instant.nanosecond

/-- The nanoseconds from an earlier instant to a later one, negative for the reverse
order.  A leap second that lies between the two times of day counts. -/
def elapsed (earlier later : Timestamp) : Int :=
  let leap : Int :=
    if later.second > earlier.second && earlier.inLeapSecond then 1
    else if later.second < earlier.second && later.inLeapSecond then -1
    else 0
  let seconds := (later.day - earlier.day) * perDay +
    ((later.second : Int) - earlier.second) + leap
  seconds * perSecond + ((later.nanosecond : Int) - earlier.nanosecond)

/-- The whole seconds from an earlier instant to a later one, without the fraction. -/
def wholeSeconds (earlier later : Timestamp) : Int :=
  (elapsed earlier later).tdiv perSecond

/-- The instant that is a number of seconds and nanoseconds after the start of a day. -/
def ofDay (day seconds nanoseconds : Int) : Timestamp :=
  let carried := seconds + nanoseconds / perSecond
  ⟨day + carried / perDay, (carried % perDay).toNat, (nanoseconds % perSecond).toNat⟩

/-- The instant a duration later.  A move that stays inside a leap second only changes
the nanoseconds; a move that leaves it forward counts from the second before, and one
that leaves it backward counts from the second after. -/
def shift (instant : Timestamp) (span : Duration) : Timestamp :=
  let seconds := span.wholeSeconds
  let nanoseconds := span.subsecond
  if instant.inLeapSecond then
    if seconds > 0 ∨ (nanoseconds > 0 ∧ instant.nanosecond + nanoseconds ≥ 2 * perSecond) then
      ofDay instant.day (instant.second + seconds)
        (instant.nanosecond - perSecond + nanoseconds)
    else if seconds < 0 then
      ofDay instant.day (instant.second + 1 + seconds)
        (instant.nanosecond - perSecond + nanoseconds)
    else
      { instant with nanosecond := (instant.nanosecond + nanoseconds).toNat }
  else
    ofDay instant.day (instant.second + seconds) (instant.nanosecond + nanoseconds)

/-- The instant a duration later, unless that is out of range. -/
def advance? (instant : Timestamp) (span : Duration) : Option Timestamp :=
  let moved := instant.shift span
  if moved.inRange then some moved else none

/-- The start of day zero. -/
def epoch : Timestamp := ⟨0, 0, 0⟩

end Timestamp

end Time
end SignalBox
