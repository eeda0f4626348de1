import SignalBox.Lock.Build
import SignalBox.Plant.Data
import SignalBox.Relay.Sweep
import SignalBox.Signal.Propagation

namespace SignalBox

/-!
# The engine

An interlocking that has been loaded, with its live state.  Clients change the state by
mutations, move its clock, run evaluation cycles and ask for aspects.  A mutation either
changes the one entry that it names or fails and changes nothing.

Moving the clock out of the range of timestamps loses the state for good: from then on
everything that would look at it fails.
-/

open Time (Duration Timestamp)

/-- A change by a client of one entry of the live state. -/
inductive Mutation where
  | lever (id : ObjectId) (position : LeverPosition)
  | button (name : String) (pressed : Bool)
  | keyLever (id : ObjectId) (direction : Direction)
  | track (id : ObjectId) (occupied : Bool)
  | trackLock (id : ObjectId) (locked : Bool)
  | machine (id : ObjectId) (direction : Direction) (switching : Bool)
  | directionRoute (id : ObjectId) (side : Side)
  | routeLock (id : ObjectId) (raised : Bool)
  | ctc (id : ObjectId) (raised : Bool)
  /-- Hand the routes of a central-control lever to central control, or back. -/
  | central (id : ObjectId) (raised : Bool)
deriving DecidableEq, Repr

/-- The occupancy of a track circuit at an instant.  Only a change restarts its timer. -/
def TrackState.occupy (track : TrackState) (now : Timestamp) (occupied : Bool) : TrackState :=
  if track.occupied = occupied then track
  else { track with occupied := occupied, changedAt := some now }

namespace State

/-- Change an entry that must be there. -/
def change {κ α : Type} [DecidableEq κ] (table : Table κ α) (key : κ) (missing : Missing)
    (update : α → α) : Except Missing (Table κ α) :=
  if table.contains key then .ok (table.modify key update) else .error missing

/-- Carry out a mutation. -/
def mutate (state : State) : Mutation → Except Missing State
  | .lever id position => do
    let levers ← change state.levers id (.state .lever id) fun _ => position
    .ok { state with levers }
  | .button name pressed => do
    let buttons ← change state.buttons name (.button name) fun _ => pressed
    .ok { state with buttons }
  | .keyLever id direction => do
    let keyLevers ← change state.keyLevers id (.keyLever id) fun _ => direction
    .ok { state with keyLevers }
  | .track id occupied => do
    let tracks ← change state.tracks id (.state .trackCircuit id) fun track =>
      track.occupy state.now occupied
    .ok { state with tracks }
  | .trackLock id locked => do
    let tracks ← change state.tracks id (.state .trackCircuit id) fun track =>
      { track with locked }
    .ok { state with tracks }
  | .machine id direction switching => do
    let machines ← change state.machines id (.state .switchingMachine id) fun _ =>
      ⟨switching, direction⟩
    .ok { state with machines }
  | .directionRoute id side => do
    let directionRoutes ← change state.directionRoutes id (.state .directionRoute id) fun _ =>
      side
    .ok { state with directionRoutes }
  | .routeLock id raised => do
    let routes ← change state.routes id (.state .route id) fun relays =>
      { relays with routeLock := raised }
    .ok { state with routes }
  | .ctc id raised => do
    let routes ← change state.routes id (.state .route id) fun relays =>
      { relays with ctc := raised }
    .ok { state with routes }
  | .central id raised => do
    let chrRelays ← change state.chrRelays id (.state .routeCentralControlLever id) fun _ =>
      raised
    .ok { state with chrRelays }

end State

/-- The live state of an engine. -/
inductive Live where
  | running (state : State)
  | lost
deriving DecidableEq, Inhabited

structure Engine where
  config : EngineConfig
  box : Interlocking
  network : SignalNetwork
  live : Live

namespace Engine

/-- Load an interlocking, its state initial at an instant. -/
def load (data : PlantData) (config : EngineConfig) (now : Timestamp) :
    List Notice × Except Error Engine :=
  let loading := [Notice.loading data.lockTable.length]
  match data.buildDatabase with
  | .error fault => (loading, .error (.plantData fault))
  | .ok plant =>
    let built := loading ++ [plant.builtNotice]
    match LockTable.build plant config data.lockTable with
    | (notices, .error error) => (built ++ notices, .error error)
    | (notices, .ok locks) =>
      let locked := built ++ notices
      match SignalNetwork.create data.signals data.signalTypes config.maxSignalDepth with
      | .error fault => (locked, .error (.plantData fault))
      | .ok network =>
        let connected := locked ++ [network.createdNotice data.signalTypes.length]
        match network.checkReferences plant with
        | .error error => (connected, .error error)
        | .ok () =>
          (connected ++ [Notice.loaded],
            .ok ⟨config, ⟨plant, locks⟩, network, .running (State.initial plant now)⟩)

variable (engine : Engine)

/-- The live state. -/
def snapshot : Except Error State :=
  match engine.live with
  | .running state => .ok state
  | .lost => .error .stateLost

/-- The engine in another state. -/
def withState (state : State) : Engine :=
  { engine with live := .running state }

/-- Carry out a mutation; the engine is as before where it fails. -/
def mutate (mutation : Mutation) : Engine × Except Error Unit :=
  match engine.live with
  | .lost => (engine, .error .stateLost)
  | .running state =>
    match state.mutate mutation with
    | .error missing => (engine, .error (.evaluation missing))
    | .ok changed => (engine.withState changed, .ok ())

/-- Move the clock, and give its new value. -/
def advance (span : Duration) : Engine × Except Error Timestamp :=
  match engine.live with
  | .lost => (engine, .error .stateLost)
  | .running state =>
    match state.now.advance? span with
    | some now => (engine.withState { state with now }, .ok now)
    | none => ({ engine with live := .lost }, .error .clockOutOfRange)

/-- Put another state in place of the live one. -/
def replaceState (state : State) : Engine × Except Error Unit :=
  match engine.live with
  | .lost => (engine, .error .stateLost)
  | .running _ => (engine.withState state, .ok ())

/-- Run one evaluation cycle.  What its completed stages wrote stays, also where it
fails. -/
def cycle : Engine × Except Error SweepReport :=
  match engine.live with
  | .lost => (engine, .error .stateLost)
  | .running state =>
    let (reached, outcome) := engine.box.sweep state
    (engine.withState reached, outcome.mapError .evaluation)

/-- The aspects of the named signals. -/
def aspects (names : List String) : Except Error (Table String Aspect) := do
  let state ← engine.snapshot
  (engine.network.aspects state names).mapError .evaluation

/-- The aspects of the named signals and of the signals directly ahead of them. -/
def aspectsWithNext (names : List String) : Except Error (Table String Aspect) := do
  let state ← engine.snapshot
  (engine.network.aspectsWithNext state names).mapError .evaluation

/-- The aspects of all signals. -/
def allAspects : Except Error (Table String Aspect) :=
  engine.aspects engine.network.names

/-- Whether a switching machine is held by its detector section. -/
def isDetectorLocked (machine : ObjectId) : Except Error Bool := do
  let state ← engine.snapshot
  (engine.box.isDetectorLocked state machine).mapError .evaluation

end Engine

end SignalBox
