import SignalBox.State

namespace SignalBox

/-!
# Relays and their changes

The six relays of a route that an evaluation cycle writes, a change of one of them, and
the writing of changes into a live state.
-/

/-- A relay of a route that a cycle writes. -/
inductive Relay where
  | lever
  | route
  | signalControl
  | throwOutX
  | throwOutXr
  | throwOutYs
deriving DecidableEq, Repr

namespace Relay

/-- The relays written by a cycle. -/
def all : List Relay :=
  [lever, route, signalControl, throwOutX, throwOutXr, throwOutYs]

/-- The letters for a relay in reports. -/
def abbreviation : Relay → String
  | lever => "LR"
  | route => "RR"
  | signalControl => "SC"
  | throwOutX => "X"
  | throwOutXr => "XR"
  | throwOutYs => "YS"

/-- The value of a relay. -/
def get (relays : RouteRelays) : Relay → Bool
  | lever => relays.lever
  | route => relays.route
  | signalControl => relays.signalControl
  | throwOutX => relays.throwOutX
  | throwOutXr => relays.throwOutXr
  | throwOutYs => relays.throwOutYs

/-- Give a relay a value. -/
def set (relays : RouteRelays) (value : Bool) : Relay → RouteRelays
  | lever => { relays with lever := value }
  | route => { relays with route := value }
  | signalControl => { relays with signalControl := value }
  | throwOutX => { relays with throwOutX := value }
  | throwOutXr => { relays with throwOutXr := value }
  | throwOutYs => { relays with throwOutYs := value }

theorem get_set (relays : RouteRelays) (value : Bool) (relay other : Relay) :
    get (set relays value relay) other = if relay = other then value else get relays other := by
  cases relay <;> cases other <;> rfl

end Relay

/-- A relay whose value changes. -/
structure RelayChange where
  route : ObjectId
  relay : Relay
  raised : Bool
deriving DecidableEq, Repr

/-- The change of a relay to a value; none if it has that value. -/
def RelayChange.between (route : ObjectId) (current : RouteRelays) (relay : Relay)
    (raised : Bool) : List RelayChange :=
  if relay.get current = raised then [] else [⟨route, relay, raised⟩]

/-- Everything a cycle wrote, in the order of writing. -/
structure SweepReport where
  changes : List RelayChange := []
deriving DecidableEq, Repr, Inhabited

namespace SweepReport

/-- Whether no relay changed. -/
def isQuiescent (report : SweepReport) : Bool :=
  report.changes.isEmpty

/-- The number of changes of one relay. -/
def count (report : SweepReport) (relay : Relay) : Nat :=
  (report.changes.filter fun change => change.relay == relay).length

end SweepReport

namespace State

/-- Write one change. -/
def record (state : State) (change : RelayChange) : State :=
  { state with
    routes := state.routes.modify change.route fun relays =>
      change.relay.set relays change.raised }

/-- Write changes in order.  A change of a route without entry ends the writing. -/
def commit (state : State) : List RelayChange → State × Option Missing
  | [] => (state, none)
  | change :: rest =>
    if state.routes.contains change.route then (state.record change).commit rest
    else (state, some (.state .route change.route))

end State

end SignalBox
