import SignalBox.Notice
import SignalBox.Plant.Database
import SignalBox.Signal.Aspect
import SignalBox.Signal.Graph

namespace SignalBox

/-!
# The signal network

Signals with what protects them, the tables they indicate by, and the graph of the signals
ahead.  A network only holds signals whose type is defined, and keeps the table with the
signal.
-/

structure SignalDefinition where
  name : String
  typeName : String
  /-- The track circuit that the signal protects. -/
  track : Option ObjectId := none
  /-- The routes of an absolute signal; other signals have none. -/
  routes : List ObjectId := []
  direction : Option Side := none
  directionRoutes : List ObjectId := []
  nextSignals : List String := []
  /-- The signal that this one repeats. -/
  repeated : Option String := none
deriving DecidableEq, Repr

namespace SignalDefinition

/-- Whether the signal protects routes. -/
def isAbsolute (signal : SignalDefinition) : Bool :=
  !signal.routes.isEmpty

/-- The objects that the signal refers to, with the kinds they must have. -/
def references (signal : SignalDefinition) : List (ObjectId × ObjectKind) :=
  (signal.track.toList.map fun id => (id, .trackCircuit)) ++
    (signal.routes.map fun id => (id, .route)) ++
    (signal.directionRoutes.map fun id => (id, .directionRoute))

/-- The direct edges that the signal declares. -/
def edges (signal : SignalDefinition) : List (String × String) :=
  signal.nextSignals.map fun next => (signal.name, next)

end SignalDefinition

/-- A signal of a network with the table that it indicates by. -/
structure Signal where
  definition : SignalDefinition
  table : SignalType
deriving DecidableEq, Repr

structure SignalNetwork where
  signals : Table String Signal
  graph : SignalGraph
deriving DecidableEq, Inhabited

namespace SignalNetwork

/-- The tables by name; a name can be given once. -/
def collectTypes (collected : Table String SignalType) :
    List SignalType → Except PlantFault (Table String SignalType)
  | [] => .ok collected
  | table :: rest =>
    if collected.contains table.name then .error (.duplicateSignalType table.name)
    else collectTypes (collected.insert table.name table) rest

/-- The signals by name with their tables; a name can be given once. -/
def collectSignals (types : Table String SignalType) (collected : Table String Signal) :
    List SignalDefinition → Except PlantFault (Table String Signal)
  | [] => .ok collected
  | signal :: rest =>
    match types.get? signal.typeName with
    | none => .error (.unknownSignalType signal.name signal.typeName)
    | some table =>
      if collected.contains signal.name then .error (.duplicateSignal signal.name)
      else collectSignals types (collected.insert signal.name ⟨signal, table⟩) rest

/-- The graph of a list of signals. -/
def graphOf (signals : List SignalDefinition) (maxDepth : Nat) : SignalGraph :=
  SignalGraph.build (signals.flatMap SignalDefinition.edges)
    ((signals.filter fun signal => signal.repeated.isSome).map SignalDefinition.name) maxDepth

/-- The network of signals and tables. -/
def create (signals : List SignalDefinition) (types : List SignalType) (maxDepth : Nat) :
    Except PlantFault SignalNetwork := do
  let tables ← collectTypes .empty types
  let collected ← collectSignals tables .empty signals
  .ok ⟨collected, graphOf signals maxDepth⟩

/-- The notice of a network created with a number of tables. -/
def createdNotice (network : SignalNetwork) (types : Nat) : Notice :=
  .networkBuilt network.signals.size types network.graph.size network.graph.maxDepth

/-- The signal of a name. -/
def signal? (network : SignalNetwork) (name : String) : Option Signal :=
  network.signals.get? name

/-- The names of all signals, ascending. -/
def names (network : SignalNetwork) : List String :=
  Ascending.ofList network.signals.keys

/-- The number of signals. -/
def size (network : SignalNetwork) : Nat :=
  network.signals.size

/-- Check one reference of a signal. -/
def checkReference (plant : Database) (signal : String) (id : ObjectId) (kind : ObjectKind) :
    Except Error Unit :=
  match plant.object id with
  | .error missing => .error (.evaluation missing)
  | .ok object =>
    if object.kind = kind then .ok ()
    else .error (.plantData (.signalReference signal kind object.name object.kind))

/-- Check that every object that a signal refers to is there and of the right kind. -/
def checkReferences (network : SignalNetwork) (plant : Database) : Except Error Unit :=
  network.signals.values.forM fun signal =>
    signal.definition.references.forM fun reference =>
      checkReference plant signal.definition.name reference.1 reference.2

end SignalNetwork

end SignalBox
