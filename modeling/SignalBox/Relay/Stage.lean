import SignalBox.Relay.Basic
import SignalBox.Relay.Predicate

namespace SignalBox

/-!
# The stages of a cycle

What each stage finds for one route in a given state.  The lever stage finds the three
throw-out relays and the lever relay, the route stage the route relay, and the
signal-control stage the signal-control relay.

A route under central control takes its lever relay from central control, with its
throw-out relays dropped.  A route without a lever is asked for by its X relay instead.
-/

namespace Interlocking

variable (box : Interlocking) (state : State)

/-- Whether a throw-out control acts: its guard, if it has one, is in the position that
the control asks for, which is reversed unless it says otherwise. -/
def isActive (control : ThrowOut) : Except Missing Bool :=
  match control.conditionLever with
  | none => pure true
  | some lever => do
    let current ← state.keyLever lever
    pure (current == control.conditionDirection.getD .reversed)

/-- The route at an end of a control, if it is one and the control acts. -/
def activeEnd (control : ThrowOut) (id : ObjectId) : Except Missing (Option ObjectId) := do
  match ← box.plant.kind id with
  | .route =>
    let active ← isActive state control
    pure (if active then some id else none)
  | _ => pure none

/-- The routes at one end of the controls of a kind that act, each one once. -/
def activeRoutes (controls : List ThrowOut) (kind : ThrowOutKind)
    (otherEnd : ThrowOut → ObjectId) : Except Missing (List ObjectId) := do
  let ends ← (controls.filter fun control => control.kind == kind).mapM fun control =>
    box.activeEnd state control (otherEnd control)
  pure (ends.filterMap id).eraseDups

/-- The routes that control a route by throw-out control. -/
def controllers (kind : ThrowOutKind) (route : ObjectId) : Except Missing (List ObjectId) :=
  box.activeRoutes state (box.plant.throwOutsInto route) kind ThrowOut.source

/-- The routes with a lever that a route controls by throw-out control. -/
def controlled (route : ObjectId) : Except Missing (List ObjectId) :=
  box.activeRoutes state (box.plant.throwOutsFrom route) .withLever ThrowOut.target

/-- Whether the lever of a route is off its centre; for a route without lever, whether its
X relay is raised. -/
def isRequested (route : ObjectId) : Except Missing Bool := do
  let definition ← box.plant.definition route
  match definition.lever with
  | some lever =>
    let position ← state.lever lever
    pure !position.isCentered
  | none =>
    let relays ← state.route route
    pure relays.throwOutX

/-- The X relay of a route without lever.  A source raises it while the final track
circuit of the approach lock is not held; once raised it stays up with its source. -/
def throwOutX (route : ObjectId) (current : RouteRelays) (unlocked : Bool) :
    Except Missing Bool := do
  let sources ← box.controllers state .withoutLever route
  let raised ← sources.mapM fun source => (state.route source).map RouteRelays.lever
  let free ← match box.locks.finalTrack? route with
    | none => pure true
    | some track => (state.track track).map fun track => !track.locked
  pure (unlocked && raised.any id && (free || current.throwOutX))

/-- The XR relay of a route with controllers.  It is taken while some controller is
requested and the route is idle with all controllers dropped, and held with the lever
relay. -/
def throwOutXr (current : RouteRelays) (controllers : List ObjectId)
    (unlocked requested : Bool) : Except Missing Bool := do
  let found ← controllers.mapM fun controller => do
    let asked ← box.isRequested state controller
    let relays ← state.route controller
    pure (asked, relays.lever)
  let anyRequested := found.any Prod.fst
  let allDropped := found.all fun pair => !pair.2
  pure (unlocked && anyRequested && ((allDropped && !requested) || current.lever) &&
    (!current.lever || current.throwOutXr))

/-- Whether the route at a leaf is released; other objects are. -/
def isReleased (leaf : Requirement) : Except Missing Bool := do
  match ← box.plant.kind leaf.target with
  | .route => (state.route leaf.target).map RouteRelays.routeLock
  | _ => pure true

/-- The YS relay of a route with controllers. -/
def throwOutYs (route : ObjectId) (current : RouteRelays) (controllers : List ObjectId)
    (xr : Bool) : Except Missing Bool := do
  let locked := ((box.locks.clause? route .directLock).map Condition.leaves).getD []
  let released ← locked.mapM (box.isReleased state)
  let idle ← controllers.mapM fun controller =>
    (state.route controller).map fun relays => !relays.routeLock && !relays.signalControl
  let approach ← Clause.check (box.isTrackClear state) (box.locks.clause? route .approachLock)
  let held ←
    if current.throwOutYs then
      Clause.check (box.isTrackClear state) (box.locks.clause? route .signalControl)
    else pure false
  pure (released.all id && (idle.all id || xr) && (approach || held))

/-- The relays found by the lever stage. -/
structure LeverRelays where
  x : Bool
  xr : Bool
  ys : Bool
  lever : Bool
deriving DecidableEq, Repr

/-- Whether a route is under central control. -/
def isCentral (definition : RouteDefinition) : Except Missing Bool :=
  match definition.centralControlLever with
  | none => pure false
  | some lever => state.chrRelay lever

/-- The X relay of a route and whether the route is requested. -/
def request (route : ObjectId) (definition : RouteDefinition) (current : RouteRelays)
    (unlocked : Bool) : Except Missing (Bool × Bool) :=
  match definition.lever with
  | some lever => do
    let position ← state.lever lever
    pure (false, !position.isCentered)
  | none => do
    let x ← box.throwOutX state route current unlocked
    pure (x, x)

/-- The lever-stage relays of a route under station control. -/
def stationRelays (route : ObjectId) (definition : RouteDefinition) (current : RouteRelays)
    (unlocked : Bool) : Except Missing LeverRelays := do
  let (x, requested) ← box.request state route definition current unlocked
  let controllers ← box.controllers state .withLever route
  let controlled ← box.controlled state route
  let (xr, ys) ←
    if controllers.isEmpty then pure (false, false)
    else do
      let xr ← box.throwOutXr state current controllers unlocked requested
      let ys ← box.throwOutYs state route current controllers xr
      pure (xr, ys)
  let button ← match definition.button with
    | none => pure true
    | some name => state.button name
  let downstream ← controlled.mapM state.route
  let downstreamXr := downstream.any RouteRelays.throwOutXr
  let downstreamHeld := downstream.any fun relays => relays.lever && relays.throwOutXr
  let asked := (!xr && !ys && requested) || ys
  let held := button || (current.lever && !downstreamXr) || downstreamHeld
  pure ⟨x, xr, ys, unlocked && asked && held⟩

/-- The lever-stage relays of a route. -/
def leverRelays (route : ObjectId) (current : RouteRelays) : Except Missing LeverRelays := do
  let definition ← box.plant.definition route
  let locked ← box.isLocked? state (box.locks.clause? route .directLock)
  if ← isCentral state definition then
    pure ⟨false, false, false, !locked && current.ctc⟩
  else box.stationRelays state route definition current !locked

/-- The changes that the lever stage finds for a route. -/
def leverChanges (route : ObjectId) : Except Missing (List RelayChange) := do
  let current ← state.route route
  let next ← box.leverRelays state route current
  pure (RelayChange.between route current .throwOutX next.x ++
    RelayChange.between route current .throwOutXr next.xr ++
    RelayChange.between route current .throwOutYs next.ys ++
    RelayChange.between route current .lever next.lever)

/-- The changes that the route stage finds for a route. -/
def routeChanges (route : ObjectId) : Except Missing (List RelayChange) := do
  let current ← state.route route
  let direct := box.locks.clause? route .directLock
  let signal := box.locks.clause? route .signalControl
  let unlocked ← Clause.check (box.isUnlocked state) direct
  let ready ← Clause.check (box.isRouteReady state) signal
  let locked ← box.isLocked? state direct
  pure (RelayChange.between route current .route (current.lever && unlocked && ready && !locked))

/-- The changes that the signal-control stage finds for a route. -/
def signalControlChanges (route : ObjectId) : Except Missing (List RelayChange) := do
  let current ← state.route route
  let direct := box.locks.clause? route .directLock
  let signal := box.locks.clause? route .signalControl
  let clear ← Clause.check (box.isSignalClear state) signal
  let locked ← box.isLocked? state direct
  pure (RelayChange.between route current .signalControl (current.route && clear && !locked))

end Interlocking

end SignalBox
