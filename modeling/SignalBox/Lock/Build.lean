import SignalBox.Config
import SignalBox.Lock.Gap
import SignalBox.Lock.Resolve
import SignalBox.Lock.Table
import SignalBox.Notation.Parser
import SignalBox.Notice

namespace SignalBox

/-!
# Building the lock table

Every row says on its own what it contributes: entries of the table, parts that are
skipped with a notice, or the fault for which loading fails.  What a row says does not
depend on the other rows.  The table is built by taking all contributions in order up to
the first fault.

A condition is skipped, and a fault is not one, where the name that cannot be resolved
lies in a known gap and gaps are tolerated.
-/

open Notation (Cell Reference Site Tree)

/-- An entry of the lock table. -/
inductive LockEntry where
  | clause (owner : ObjectId) (kind : LockKind) (tree : Clause)
  | finalTrack (route track : ObjectId)
  | lockLever (owner : ObjectId) (side : Side) (single : Bool) (lever : LockLever)
deriving DecidableEq

/-- One thing that a row says. -/
inductive Contribution where
  | entry (value : LockEntry)
  /-- A part of the row is left out. -/
  | skip (notice : Notice)
  | fault (error : Error)
deriving DecidableEq

namespace LockRow

variable (plant : Database) (config : EngineConfig) (row : LockRow)

/-- What becomes of a name that cannot be resolved. -/
def unresolved : ResolveError → Contribution
  | .unresolved token place =>
    if config.toleratesGaps && inKnownGap place row.localOwner token row.column then
      .skip (.clauseSkipped row.context token place)
    else .fault (.resolution row.context token place)
  | .ambiguous token place candidates =>
    .fault (.ambiguousResolution row.context token place candidates)

/-- The last track circuit of a resolved condition. -/
def lastTrack? (tree : Clause) : Option ObjectId :=
  (tree.leaves.reverse.find? fun leaf =>
    (plant.object? leaf.target).any fun object => object.kind == .trackCircuit).map
      Requirement.target

/-- What a resolved condition of the row contributes. -/
def resolvedEntries (owner : PlantObject) (tree : Clause) : List LockEntry :=
  let track :=
    if row.column = .approachLock ∧ owner.kind = .route then
      (lastTrack? plant tree).toList.map fun track => LockEntry.finalTrack owner.id track
    else []
  track ++ [.clause owner.id row.column.lockKind tree]

/-- What one condition of the row contributes. -/
def readTree (owner : PlantObject) (tree : Tree) : List Contribution :=
  match plant.resolve row.column tree with
  | .ok resolved => (row.resolvedEntries plant owner resolved).map .entry
  | .error error => [row.unresolved config error]

/-- What a direction-lock cell contributes: its one name is a lock lever. -/
def readDirectionLock (owner : PlantObject) (side : Side) (cell : Option Cell) :
    Contribution :=
  if owner.kind ≠ .directionRoute then
    .fault (.plantData (.directionLockOwner owner.name owner.kind row.context))
  else
    match (cell.map Cell.references).getD [] with
    | [reference] =>
      match plant.resolveDirectionRoute row.column reference with
      | .ok found =>
        .entry (.lockLever owner.id side found.subjectToUnlock
          ⟨found.target, found.side.getD .left⟩)
      | .error error => row.unresolved config error
    | references => .skip (.leverCount row.context references.length)

/-- What a row of a known owner contributes. -/
def readOwned (owner : PlantObject) : List Contribution :=
  match Notation.parse ⟨plant.adjacency, row.plant, row.column⟩ row.raw with
  | .error cause => [.fault (.parse row.context cause)]
  | .ok cell =>
    match row.column.directionSide? with
    | some side => [row.readDirectionLock plant config owner side cell]
    | none => ((cell.map Cell.trees).getD []).flatMap (row.readTree plant config owner)

/-- What a row contributes.  Rows of plants that are not loaded contribute nothing. -/
def read : List Contribution :=
  if !config.loads row.plant then []
  else
    match plant.find? row.object with
    | some owner => row.readOwned plant config owner
    | none =>
      if config.toleratesGaps && inKnownGap row.plant row.localOwner "" row.column then
        [.skip (.rowSkipped row.context)]
      else [.fault (.plantData (.unknownOwner row.object row.context))]

end LockRow

namespace LockTable

/-- Take an entry into the table. -/
def enter (table : LockTable) : LockEntry → LockTable
  | .clause owner kind tree => table.insert owner kind tree
  | .finalTrack route track => table.registerFinalTrack route track
  | .lockLever owner side single lever => table.registerLever owner side single lever

/-- Take contributions in order up to the first fault.  The notices of the skipped parts
before it are given in either case. -/
def take (table : LockTable) : List Contribution → List Notice × Except Error LockTable
  | [] => ([], .ok table)
  | .fault error :: _ => ([], .error error)
  | .entry value :: rest => (table.enter value).take rest
  | .skip notice :: rest =>
    let (notices, outcome) := table.take rest
    (notice :: notices, outcome)

/-- The closing notice of a build that skipped a number of parts. -/
def builtNotice (table : LockTable) (skipped : Nat) : Notice :=
  .lockTableBuilt table.size table.owners.length table.directionLocks.size skipped

/-- Build the table of all rows. -/
def build (plant : Database) (config : EngineConfig) (rows : List LockRow) :
    List Notice × Except Error LockTable :=
  let (skips, outcome) := ({} : LockTable).take (rows.flatMap (LockRow.read plant config))
  match outcome with
  | .ok table => (skips ++ [table.builtNotice skips.length], .ok table)
  | .error error => (skips, .error error)

end LockTable

end SignalBox
