import SignalBox.Plant.Position

namespace SignalBox

/-!
# Columns of an interlocking table

The column a cell stands in decides how its text is read, how its tokens are resolved and
which kind of lock its condition feeds.  Two columns feed the direct lock.
-/

/-- The relationship that a resolved condition expresses. -/
inductive LockKind where
  | directLock
  | routeLock
  | signalControl
  | approachLock
  | detector
  | directionLock
deriving DecidableEq, Repr

/-- The kinds of locks. -/
def LockKind.all : List LockKind :=
  [directLock, routeLock, signalControl, approachLock, detector, directionLock]

/-- The words for a kind of lock in messages. -/
def LockKind.description : LockKind → String
  | directLock => "direct lock"
  | routeLock => "route lock"
  | signalControl => "signal control"
  | approachLock => "approach lock"
  | detector => "detector"
  | directionLock => "direction lock"

inductive LockColumn where
  /-- Switching machines locked by a route, by number. -/
  | switchingMachine
  /-- Conflicting routes and other objects locked by a route. -/
  | directLock
  | signalControl
  | routeLock
  | approachLock
  /-- Track circuits that hold a switching machine. -/
  | detector
  /-- The lock lever of the left lever of a direction route. -/
  | directionLockLeft
  /-- The lock lever of the right lever of a direction route. -/
  | directionLockRight
deriving DecidableEq, Repr

namespace LockColumn

/-- The kind of lock that a column feeds. -/
def lockKind : LockColumn → LockKind
  | switchingMachine => .directLock
  | directLock => .directLock
  | signalControl => .signalControl
  | routeLock => .routeLock
  | approachLock => .approachLock
  | detector => .detector
  | directionLockLeft => .directionLock
  | directionLockRight => .directionLock

/-- The lever of a direction route that a column registers lock levers for. -/
def directionSide? : LockColumn → Option Side
  | directionLockLeft => some .left
  | directionLockRight => some .right
  | _ => none

/-- Whether the cells of a column hold numbered alternatives. -/
def hasAlternatives (column : LockColumn) : Bool :=
  column == routeLock

end LockColumn

end SignalBox
