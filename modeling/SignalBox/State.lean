import SignalBox.Plant.Database
import SignalBox.Table
import SignalBox.Time.Timestamp

namespace SignalBox

/-!
# The live state

The relays of every route and the positions of everything that moves, at one instant.  The
accessors turn an absent entry into what is missing, so that no evaluation goes on with a
default.
-/

open Time (Timestamp)

/-- The relays of a route; true stands for raised. -/
structure RouteRelays where
  lever : Bool := false
  route : Bool := false
  signalControl : Bool := false
  throwOutXr : Bool := false
  throwOutYs : Bool := false
  /-- Stands in for the lever of a route without one. -/
  throwOutX : Bool := false
  /-- Set by central control, and read while the route is under it. -/
  ctc : Bool := false
  /-- Kept by the route lock from outside; raised while the route is released. -/
  routeLock : Bool := true
deriving DecidableEq, Repr, Inhabited

structure TrackState where
  occupied : Bool := false
  /-- When the occupancy last changed, if that is known. -/
  changedAt : Option Timestamp := none
  /-- Held by the route lock, which is kept from outside. -/
  locked : Bool := false
deriving DecidableEq, Inhabited

/-- Occupied, and for at least a number of seconds where one is given.  An occupancy
whose beginning is not known counts as long enough. -/
def TrackState.occupiedFor (track : TrackState) (now : Timestamp)
    (seconds : Option Notation.Seconds) : Bool :=
  track.occupied &&
    match seconds, track.changedAt with
    | some seconds, some changedAt =>
      decide ((seconds.toNat : Int) ≤ Timestamp.wholeSeconds changedAt now)
    | _, _ => true

structure MachineState where
  /-- The points are moving. -/
  switching : Bool := false
  direction : Direction := .normal
deriving DecidableEq, Repr, Inhabited

/-- At rest in a direction. -/
def MachineState.settledAt (machine : MachineState) (direction : Direction) : Bool :=
  !machine.switching && machine.direction == direction

structure State where
  now : Timestamp
  routes : Table ObjectId RouteRelays := .empty
  levers : Table ObjectId LeverPosition := .empty
  /-- The destination buttons by name; true stands for pressed. -/
  buttons : Table String Bool := .empty
  tracks : Table ObjectId TrackState := .empty
  machines : Table ObjectId MachineState := .empty
  directionRoutes : Table ObjectId Side := .empty
  /-- Direction self-control levers and route central-control levers. -/
  keyLevers : Table ObjectId Direction := .empty
  /-- The CHR relays of the route central-control levers; raised under central control. -/
  chrRelays : Table ObjectId Bool := .empty
deriving DecidableEq, Inhabited

namespace State

/-- The same value for every number of a list. -/
def uniform {α : Type} (ids : List ObjectId) (value : α) : Table ObjectId α :=
  Table.ofList (ids.map fun id => (id, value))

/-- All relays dropped and routes released, levers centred, tracks clear, and everything
else normal or left. -/
def initial (plant : Database) (now : Timestamp) : State :=
  let ids (kind : ObjectKind) := (plant.objectsOfKind kind).map PlantObject.id
  { now
    routes := uniform plant.routeIds {}
    levers := uniform (ids .lever) .center
    buttons := Table.ofList
      ((plant.routeIds.filterMap fun id => (plant.route? id).bind RouteDefinition.button).map
        fun button => (button, false))
    tracks := uniform (ids .trackCircuit) {}
    machines := uniform (ids .switchingMachine) {}
    directionRoutes := uniform (ids .directionRoute) .left
    keyLevers := uniform (ids .directionSelfControlLever ++ ids .routeCentralControlLever) .normal
    chrRelays := uniform (ids .routeCentralControlLever) false }

/-- An entry, or what is missing. -/
def entry {κ α : Type} [DecidableEq κ] (table : Table κ α) (key : κ) (missing : Missing) :
    Except Missing α :=
  match table.get? key with
  | some value => .ok value
  | none => .error missing

variable (state : State)

def route (id : ObjectId) : Except Missing RouteRelays :=
  entry state.routes id (.state .route id)

def lever (id : ObjectId) : Except Missing LeverPosition :=
  entry state.levers id (.state .lever id)

def button (name : String) : Except Missing Bool :=
  entry state.buttons name (.button name)

def track (id : ObjectId) : Except Missing TrackState :=
  entry state.tracks id (.state .trackCircuit id)

def machine (id : ObjectId) : Except Missing MachineState :=
  entry state.machines id (.state .switchingMachine id)

def directionRoute (id : ObjectId) : Except Missing Side :=
  entry state.directionRoutes id (.state .directionRoute id)

def keyLever (id : ObjectId) : Except Missing Direction :=
  entry state.keyLevers id (.keyLever id)

def chrRelay (id : ObjectId) : Except Missing Bool :=
  entry state.chrRelays id (.state .routeCentralControlLever id)

end State

end SignalBox
