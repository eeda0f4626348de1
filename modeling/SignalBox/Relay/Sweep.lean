import SignalBox.Relay.Stage

namespace SignalBox

/-!
# Evaluation cycles

A cycle runs the three stages over all routes.  A stage finds all its changes in the state
that the stages before it left, and only then writes them.  A stage that fails writes
nothing, and what the stages before it wrote stays written.
-/

inductive Stage where
  | lever
  | route
  | signalControl
deriving DecidableEq, Repr

namespace Stage

/-- The stages in the order in which they run. -/
def order : List Stage :=
  [lever, route, signalControl]

/-- The changes that a stage finds for one route. -/
def changesOf (stage : Stage) (box : Interlocking) (state : State) (route : ObjectId) :
    Except Missing (List RelayChange) :=
  match stage with
  | lever => box.leverChanges state route
  | .route => box.routeChanges state route
  | signalControl => box.signalControlChanges state route

/-- The changes that a stage finds for several routes, in order. -/
def changes (stage : Stage) (box : Interlocking) (routes : List ObjectId) (state : State) :
    Except Missing (List RelayChange) :=
  (routes.mapM (stage.changesOf box state)).map List.flatten

/-- Run one stage: find its changes, then write them. -/
def perform (stage : Stage) (box : Interlocking) (routes : List ObjectId) (state : State) :
    State × Except Missing (List RelayChange) :=
  match stage.changes box routes state with
  | .error missing => (state, .error missing)
  | .ok found =>
    match state.commit found with
    | (reached, none) => (reached, .ok found)
    | (reached, some missing) => (reached, .error missing)

/-- Run several stages, each over its own list of routes, up to the first that fails. -/
def performAll (box : Interlocking) (routes : Stage → List ObjectId) (state : State) :
    List Stage → State × Except Missing (List RelayChange)
  | [] => (state, .ok [])
  | stage :: later =>
    match stage.perform box (routes stage) state with
    | (reached, .error missing) => (reached, .error missing)
    | (reached, .ok found) =>
      match performAll box routes reached later with
      | (final, .error missing) => (final, .error missing)
      | (final, .ok others) => (final, .ok (found ++ others))

end Stage

namespace Interlocking

variable (box : Interlocking) (state : State)

/-- The changes that a stage finds for all defined routes. -/
def stageChanges (stage : Stage) : Except Missing (List RelayChange) :=
  stage.changes box box.plant.routeIds state

/-- Run one cycle.  The state is what the cycle left, also where it failed. -/
def sweep : State × Except Missing SweepReport :=
  let (reached, outcome) :=
    Stage.performAll box (fun _ => box.plant.routeIds) state Stage.order
  (reached, outcome.map SweepReport.mk)

end Interlocking

end SignalBox
