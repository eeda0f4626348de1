import SignalBox.Condition
import SignalBox.Notation.Token
import SignalBox.Plant.Object
import SignalBox.Plant.Position

namespace SignalBox

/-!
# Requirements on objects

The leaves of resolved conditions: an object, and where it has to stand.
-/

/-- What a lock condition asks of an object. -/
structure Requirement where
  target : ObjectId
  /-- The position of an object that has one. -/
  direction : Option Direction := none
  /-- The side of a direction route. -/
  side : Option Side := none
  timer : Option Notation.Seconds := none
  subjectToUnlock : Bool := false
deriving DecidableEq, Repr

/-- A resolved condition. -/
abbrev Clause := Condition Requirement

end SignalBox
