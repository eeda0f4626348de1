import SignalBox.Document.Basic
import SignalBox.Plant.Data

namespace SignalBox
namespace Document

/-!
# Master data as a document
-/

open Json (Decoder)
open Json.Record (decoder required defaulting)

def plantObject : Decoder PlantObject := decoder do
  let id ← required "id" objectId
  let name ← required "name" Decoder.string
  let kind ← required "kind" objectKind
  let plant ← required "plant" Decoder.string
  pure { id, name, kind, plant }

def ofPlantObject (object : PlantObject) : Json :=
  .object
    [("id", .ofNat object.id),
     ("name", .string object.name),
     ("kind", ofObjectKind object.kind),
     ("plant", .string object.plant)]

def routeDefinition : Decoder RouteDefinition := decoder do
  let id ← required "id" objectId
  let lever ← defaulting "lever" none (Decoder.nullable objectId)
  let button ← defaulting "destination_button" none (Decoder.nullable Decoder.string)
  let centralControlLever ←
    defaulting "central_control_lever" none (Decoder.nullable objectId)
  pure { id, lever, button, centralControlLever }

def ofRouteDefinition (route : RouteDefinition) : Json :=
  .object
    [("id", .ofNat route.id),
     ("lever", .ofOption .ofNat route.lever),
     ("destination_button", .ofOption .string route.button),
     ("central_control_lever", .ofOption .ofNat route.centralControlLever)]

def throwOut : Decoder ThrowOut := decoder do
  let source ← required "source" objectId
  let target ← required "target" objectId
  let kind ← defaulting "kind" .withLever throwOutKind
  let targetSide ← defaulting "target_side" none (Decoder.nullable side)
  let conditionLever ← defaulting "condition_lever" none (Decoder.nullable objectId)
  let conditionDirection ← defaulting "condition_direction" none (Decoder.nullable direction)
  pure { source, target, kind, targetSide, conditionLever, conditionDirection }

def ofThrowOut (control : ThrowOut) : Json :=
  .object
    [("source", .ofNat control.source),
     ("target", .ofNat control.target),
     ("kind", ofThrowOutKind control.kind),
     ("target_side", .ofOption ofSide control.targetSide),
     ("condition_lever", .ofOption .ofNat control.conditionLever),
     ("condition_direction", .ofOption ofDirection control.conditionDirection)]

def lockRow : Decoder LockRow := decoder do
  let plant ← required "plant" Decoder.string
  let object ← required "object" Decoder.string
  let column ← required "column" lockColumn
  let raw ← required "raw" Decoder.string
  pure { plant, object, column, raw }

def ofLockRow (row : LockRow) : Json :=
  .object
    [("plant", .string row.plant),
     ("object", .string row.object),
     ("column", ofLockColumn row.column),
     ("raw", .string row.raw)]

def signalDefinition : Decoder SignalDefinition := decoder do
  let name ← required "name" Decoder.string
  let typeName ← required "type_name" Decoder.string
  let track ← defaulting "track_circuit" none (Decoder.nullable objectId)
  let routes ← defaulting "routes" [] (Decoder.list objectId)
  let direction ← defaulting "direction" none (Decoder.nullable side)
  let directionRoutes ← defaulting "direction_routes" [] (Decoder.list objectId)
  let nextSignals ← defaulting "next_signals" [] (Decoder.list Decoder.string)
  let repeated ← defaulting "repeats" none (Decoder.nullable Decoder.string)
  pure { name, typeName, track, routes, direction, directionRoutes, nextSignals, repeated }

def ofSignalDefinition (signal : SignalDefinition) : Json :=
  .object
    [("name", .string signal.name),
     ("type_name", .string signal.typeName),
     ("track_circuit", .ofOption .ofNat signal.track),
     ("routes", .ofList .ofNat signal.routes),
     ("direction", .ofOption ofSide signal.direction),
     ("direction_routes", .ofList .ofNat signal.directionRoutes),
     ("next_signals", .ofList .string signal.nextSignals),
     ("repeats", .ofOption .string signal.repeated)]

def signalType : Decoder SignalType := decoder do
  let name ← required "name" Decoder.string
  let stop ← required "r" aspect
  let restricted ← required "yy" aspect
  let caution ← required "y" aspect
  let reduced ← required "yg" aspect
  let proceed ← required "g" aspect
  pure ⟨name, stop, restricted, caution, reduced, proceed⟩

def adjacency : Decoder Adjacency := fun json =>
  (byName (Decoder.list Decoder.string) json).map Adjacency.mk

def ofAdjacency (adjacency : Adjacency) : Json :=
  ofByName (.ofList .string) adjacency.neighbours

/-- Master data; only its objects cannot be left out. -/
def plantData : Decoder PlantData := decoder do
  let adjacency ← defaulting "adjacency" none (Decoder.nullable adjacency)
  let objects ← required "objects" (Decoder.list plantObject)
  let routes ← defaulting "routes" [] (Decoder.list routeDefinition)
  let throwOuts ← defaulting "throw_out_controls" [] (Decoder.list throwOut)
  let lockTable ← defaulting "lock_table" [] (Decoder.list lockRow)
  let signals ← defaulting "signals" [] (Decoder.list signalDefinition)
  let signalTypes ← defaulting "signal_types" [] (Decoder.list signalType)
  pure { adjacency, objects, routes, throwOuts, lockTable, signals, signalTypes }

end Document
end SignalBox
