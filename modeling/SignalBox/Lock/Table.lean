import SignalBox.Ascending
import SignalBox.Lock.Column
import SignalBox.Lock.Requirement
import SignalBox.Table

namespace SignalBox

/-!
# The lock table

The resolved conditions of every object, by kind of lock.  The numbered alternatives of a
route lock are kept apart; every other kind keeps one condition per object, to which a
further one is joined by conjunction.  Beside them stand the lock levers of the direction
routes and the track circuit in which the approach lock of a route ends.
-/

/-- A lever of a neighbouring plant: a direction route and its side. -/
structure LockLever where
  directionRoute : ObjectId
  side : Side
deriving DecidableEq, Repr

/-- The levers of a neighbouring plant that are registered for one lever. -/
structure LeverLocks where
  /-- The lever that locks this one. -/
  lock : Option LockLever := none
  /-- The lever that this one is single-locked by. -/
  singleLocked : Option LockLever := none
deriving DecidableEq, Repr, Inhabited

/-- The registered levers of both levers of a direction route. -/
structure DirectionLocks where
  left : LeverLocks := {}
  right : LeverLocks := {}
deriving DecidableEq, Repr, Inhabited

namespace DirectionLocks

/-- The registered levers of one side. -/
def lever (locks : DirectionLocks) : Side → LeverLocks
  | .left => locks.left
  | .right => locks.right

/-- Register a lever on one side, as the single-locking one or as the locking one. -/
def register (locks : DirectionLocks) (side : Side) (single : Bool) (lever : LockLever) :
    DirectionLocks :=
  let change (levers : LeverLocks) : LeverLocks :=
    if single then { levers with singleLocked := some lever }
    else { levers with lock := some lever }
  match side with
  | .left => { locks with left := change locks.left }
  | .right => { locks with right := change locks.right }

end DirectionLocks

/-- Join a further condition to a stored one. -/
def Clause.join : Clause → Clause → Clause
  | .all parts, tree => .all (parts ++ [tree])
  | stored, tree => .all [stored, tree]

structure LockTable where
  clauses : Table (ObjectId × LockKind) (List Clause) := .empty
  directionLocks : Table ObjectId DirectionLocks := .empty
  /-- The last track circuit of a route's approach-lock condition. -/
  finalTracks : Table ObjectId ObjectId := .empty
deriving Inhabited

namespace LockTable

/-- The conditions of an object for a kind of lock. -/
def clausesOf (table : LockTable) (object : ObjectId) (kind : LockKind) : List Clause :=
  (table.clauses.get? (object, kind)).getD []

/-- The stored conditions of a kind of lock once a further one is added. -/
def extend (kind : LockKind) (stored : List Clause) (tree : Clause) : List Clause :=
  if kind = .routeLock then stored ++ [tree]
  else
    match stored with
    | [] => [tree]
    | first :: _ => [first.join tree]

/-- Add a condition. -/
def insert (table : LockTable) (object : ObjectId) (kind : LockKind) (tree : Clause) :
    LockTable :=
  { table with
    clauses := table.clauses.insert (object, kind)
      (extend kind (table.clausesOf object kind) tree) }

/-- The condition of an object for a kind of lock other than the route lock. -/
def clause? (table : LockTable) (object : ObjectId) (kind : LockKind) : Option Clause :=
  (table.clausesOf object kind).head?

/-- The numbered alternatives of an object's route lock. -/
def routeLocks (table : LockTable) (object : ObjectId) : List Clause :=
  table.clausesOf object .routeLock

/-- Register a lock lever for one side of a direction route. -/
def registerLever (table : LockTable) (owner : ObjectId) (side : Side) (single : Bool)
    (lever : LockLever) : LockTable :=
  let locks := (table.directionLocks.get? owner).getD {}
  { table with
    directionLocks := table.directionLocks.insert owner (locks.register side single lever) }

/-- Register the final track circuit of a route, unless it has one. -/
def registerFinalTrack (table : LockTable) (route track : ObjectId) : LockTable :=
  if table.finalTracks.contains route then table
  else { table with finalTracks := table.finalTracks.insert route track }

/-- The registered lock levers of a direction route. -/
def directionLocks? (table : LockTable) (directionRoute : ObjectId) : Option DirectionLocks :=
  table.directionLocks.get? directionRoute

/-- The track circuit in which the approach lock of a route ends. -/
def finalTrack? (table : LockTable) (route : ObjectId) : Option ObjectId :=
  table.finalTracks.get? route

/-- The number of conditions. -/
def size (table : LockTable) : Nat :=
  table.clauses.values.flatten.length

def isEmpty (table : LockTable) : Bool :=
  table.clauses.entries.isEmpty

/-- The objects that have a condition, ascending. -/
def owners (table : LockTable) : List ObjectId :=
  Ascending.ofList (table.clauses.keys.map Prod.fst)

end LockTable

end SignalBox
