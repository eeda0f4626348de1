import SignalBox.Lock.Table
import SignalBox.State

namespace SignalBox

/-!
# What a requirement means

The stages of a cycle walk the same conditions and ask their leaves different questions:

* locking: a raised lever relay, or an occupied track circuit;
* unlocked: a dropped route relay, a clear track circuit, or an object in position;
* route-ready: a clear track circuit, a settled machine, or a direction route on its side;
* signal-clear: a clear track circuit, a dropped lever relay, or a direction route on its
  side;
* track-clear: a clear track circuit.

Objects of a kind that a question does not name do not stand in the way.
-/

/-- The immutable part of an interlocking: its plant and its lock table. -/
structure Interlocking where
  plant : Database
  locks : LockTable
deriving Inhabited

/-- Evaluate a condition that may be absent; an absent one holds. -/
def Clause.check (ask : Requirement → Except Missing Bool) : Option Clause → Except Missing Bool
  | none => .ok true
  | some clause => clause.survey ask

namespace Requirement

/-- The position asked for; normal where none is given. -/
def position (leaf : Requirement) : Direction :=
  leaf.direction.getD .normal

end Requirement

namespace Interlocking

variable (box : Interlocking) (state : State)

def isTrackClear (leaf : Requirement) : Except Missing Bool := do
  match ← box.plant.kind leaf.target with
  | .trackCircuit =>
    let track ← state.track leaf.target
    pure !track.occupiedFor state.now leaf.timer
  | _ => pure true

/-- Whether a direction route is on the side asked for. -/
def isOnSide (leaf : Requirement) : Except Missing Bool :=
  match leaf.side with
  | none => pure true
  | some side => do
    let current ← state.directionRoute leaf.target
    pure (current == side)

/-- Whether a switching machine is at rest in the position asked for. -/
def isSettled (leaf : Requirement) : Except Missing Bool := do
  let machine ← state.machine leaf.target
  pure (machine.settledAt leaf.position)

/-- Whether a leaf locks.  What is subject to unlocking never does. -/
def isLocking (leaf : Requirement) : Except Missing Bool :=
  if leaf.subjectToUnlock then pure false
  else do
    match ← box.plant.kind leaf.target with
    | .route =>
      let relays ← state.route leaf.target
      pure relays.lever
    | .trackCircuit =>
      let track ← state.track leaf.target
      pure (track.occupiedFor state.now leaf.timer)
    | _ => pure false

def isUnlocked (leaf : Requirement) : Except Missing Bool := do
  match ← box.plant.kind leaf.target with
  | .route =>
    let relays ← state.route leaf.target
    pure !relays.route
  | .trackCircuit => box.isTrackClear state leaf
  | .switchingMachine => isSettled state leaf
  | .directionRoute => isOnSide state leaf
  | .lever =>
    let lever ← state.lever leaf.target
    pure (lever.satisfies leaf.position)
  | .directionSelfControlLever =>
    let current ← state.keyLever leaf.target
    pure (current == leaf.position)
  | .routeCentralControlLever =>
    let current ← state.keyLever leaf.target
    pure (current == leaf.position)

def isRouteReady (leaf : Requirement) : Except Missing Bool := do
  match ← box.plant.kind leaf.target with
  | .trackCircuit => box.isTrackClear state leaf
  | .switchingMachine => isSettled state leaf
  | .directionRoute => isOnSide state leaf
  | _ => pure true

def isSignalClear (leaf : Requirement) : Except Missing Bool := do
  match ← box.plant.kind leaf.target with
  | .trackCircuit => box.isTrackClear state leaf
  | .route =>
    let relays ← state.route leaf.target
    pure !relays.lever
  | .directionRoute => isOnSide state leaf
  | _ => pure true

/-- A condition locks unless it holds with every leaf read as not locking. -/
def isLocked (tree : Clause) : Except Missing Bool := do
  let free ← tree.survey fun leaf => do
    let locking ← box.isLocking state leaf
    pure !locking
  pure !free

/-- A condition that is absent does not lock. -/
def isLocked? : Option Clause → Except Missing Bool
  | none => pure false
  | some tree => box.isLocked state tree

/-- A switching machine may not move while a track circuit of its detector section is
occupied. -/
def isDetectorLocked (machine : ObjectId) : Except Missing Bool :=
  box.isLocked? state (box.locks.clause? machine .detector)

end Interlocking

end SignalBox
