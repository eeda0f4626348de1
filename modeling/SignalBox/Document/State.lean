import SignalBox.Document.Basic
import SignalBox.Json.MergePatch
import SignalBox.State

namespace SignalBox
namespace Document

/-!
# The live state as a document

A document that was written before a relay existed leaves its member out, and is read with
the relay dropped and the route released.
-/

open Json (Decoder)
open Json.Record (decoder required defaulting)

def routeRelays : Decoder RouteRelays := decoder do
  let lever ← required "lever_relay" Decoder.bool
  let route ← required "route_relay" Decoder.bool
  let signalControl ← required "signal_control_relay" Decoder.bool
  let throwOutXr ← required "throw_out_xr" Decoder.bool
  let throwOutYs ← required "throw_out_ys" Decoder.bool
  let throwOutX ← defaulting "throw_out_x" false Decoder.bool
  let ctc ← defaulting "ctc_relay" false Decoder.bool
  let routeLock ← defaulting "route_lock_relay" true Decoder.bool
  pure { lever, route, signalControl, throwOutXr, throwOutYs, throwOutX, ctc, routeLock }

def ofRouteRelays (relays : RouteRelays) : Json :=
  .object
    [("lever_relay", .bool relays.lever),
     ("route_relay", .bool relays.route),
     ("signal_control_relay", .bool relays.signalControl),
     ("throw_out_xr", .bool relays.throwOutXr),
     ("throw_out_ys", .bool relays.throwOutYs),
     ("throw_out_x", .bool relays.throwOutX),
     ("ctc_relay", .bool relays.ctc),
     ("route_lock_relay", .bool relays.routeLock)]

def trackState : Decoder TrackState := decoder do
  let occupied ← required "occupied" Decoder.bool
  let changedAt ← defaulting "changed_at" none (Decoder.nullable timestamp)
  let locked ← defaulting "locked" false Decoder.bool
  pure { occupied, changedAt, locked }

def ofTrackState (track : TrackState) : Json :=
  .object
    [("occupied", .bool track.occupied),
     ("changed_at", .ofOption ofTimestamp track.changedAt),
     ("locked", .bool track.locked)]

def machineState : Decoder MachineState := decoder do
  let switching ← required "switching" Decoder.bool
  let direction ← required "direction" direction
  pure { switching, direction }

def ofMachineState (machine : MachineState) : Json :=
  .object [("switching", .bool machine.switching), ("direction", ofDirection machine.direction)]

/-- A live state; only its clock cannot be left out. -/
def state : Decoder State := decoder do
  let now ← required "now" timestamp
  let routes ← defaulting "routes" .empty (byId routeRelays)
  let levers ← defaulting "levers" .empty (byId leverPosition)
  let buttons ← defaulting "buttons" .empty (byName Decoder.bool)
  let tracks ← defaulting "track_circuits" .empty (byId trackState)
  let machines ← defaulting "switching_machines" .empty (byId machineState)
  let directionRoutes ← defaulting "direction_routes" .empty (byId side)
  let keyLevers ← defaulting "key_levers" .empty (byId direction)
  let chrRelays ← defaulting "chr_relays" .empty (byId Decoder.bool)
  pure { now, routes, levers, buttons, tracks, machines, directionRoutes, keyLevers, chrRelays }

def ofState (state : State) : Json :=
  .object
    [("now", ofTimestamp state.now),
     ("routes", ofById ofRouteRelays state.routes),
     ("levers", ofById ofLeverPosition state.levers),
     ("buttons", ofByName .bool state.buttons),
     ("track_circuits", ofById ofTrackState state.tracks),
     ("switching_machines", ofById ofMachineState state.machines),
     ("direction_routes", ofById ofSide state.directionRoutes),
     ("key_levers", ofById ofDirection state.keyLevers),
     ("chr_relays", ofById .bool state.chrRelays)]

/-- A state changed by a merge patch of its document; null changes nothing. -/
def patchState (current : State) : Json → Option State
  | .null => some current
  | patch => state ((ofState current).mergePatch patch)

end Document
end SignalBox
