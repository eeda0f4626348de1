import SignalBox.Document.Condition
import SignalBox.Lock.Table

namespace SignalBox
namespace Document

/-!
# The lock table in documents

A lock table is shown as far as it concerns a list of objects: their conditions by the
words for the kind of lock, their lock levers and their final track circuits.  Objects
about which the table says nothing are left out.
-/

def ofLockLever (lever : LockLever) : Json :=
  .object [("direction_route", .ofNat lever.directionRoute), ("side", ofSide lever.side)]

def ofLeverLocks (locks : LeverLocks) : Json :=
  .object
    [("lock", .ofOption ofLockLever locks.lock),
     ("single_locked", .ofOption ofLockLever locks.singleLocked)]

def ofDirectionLocks (locks : DirectionLocks) : Json :=
  .object [("left", ofLeverLocks locks.left), ("right", ofLeverLocks locks.right)]

/-- The conditions of an object by kind of lock, if it has any. -/
def ofClausesOf? (table : LockTable) (owner : ObjectId) : Option Json :=
  match LockKind.all.filter fun kind => !(table.clausesOf owner kind).isEmpty with
  | [] => none
  | kinds =>
    some (.object (kinds.map fun kind =>
      (kind.description, .ofList ofClause (table.clausesOf owner kind))))

/-- What is to be said about objects, under their numbers. -/
def ofObjects (owners : List ObjectId) (say : ObjectId → Option Json) : Json :=
  .object (owners.filterMap fun owner => (say owner).map fun json => (Text.ofNat owner, json))

/-- The members for a lock table, as far as it concerns some objects. -/
def lockTableMembers (table : LockTable) (objects : List ObjectId) :
    List (Json.Name × Json) :=
  let owners := Ascending.ofList objects
  [("len", .ofNat table.size),
   ("is_empty", .bool table.isEmpty),
   ("clauses", ofObjects owners (ofClausesOf? table)),
   ("direction_locks", ofObjects owners fun owner =>
     (table.directionLocks? owner).map ofDirectionLocks),
   ("final_tracks", ofObjects owners fun owner => (table.finalTrack? owner).map .ofNat)]

end Document
end SignalBox
