import SignalBox.Proofs.Backing
import SignalBox.Proofs.Runs

namespace SignalBox

/-!
# Conflicting routes

Two routes conflict where the direct lock of one cannot do without the other being free.
It is enough that one of them says so.  The lever relays of both may still rise in the
same lever stage, as each of them is found with the other one dropped.  The route stage
then sees both raised, and the route that asks for the other to be free stays down.

That no two conflicting relays are raised is not established once and kept from then on:
each stage only looks at the relays of the stage before it.  `Excluded` says what holds of
both later relays together, and every stage keeps it, so that it also holds after a cycle
that ended in its second or third stage.
-/

namespace Interlocking

/-- The direct lock of the first route cannot do without the second one being free, and
the second one is not subject to unlocking there. -/
def LocksOut (box : Interlocking) (first second : ObjectId) : Prop :=
  ∃ leaf, leaf ∈ box.demands first ∧ leaf.target = second ∧ leaf.subjectToUnlock = false

instance (box : Interlocking) (first second : ObjectId) : Decidable (box.LocksOut first second) :=
  inferInstanceAs (Decidable (∃ leaf, leaf ∈ box.demands first ∧ leaf.target = second ∧
    leaf.subjectToUnlock = false))

/-- A route that nothing locks has every route dropped that it locks out. -/
theorem dropped_of_locksOut {box : Interlocking} {state : State} {first second : ObjectId}
    (conflict : box.LocksOut first second) (route : box.plant.kind second = .ok .route)
    (free : box.isLocked? state (box.locks.clause? first .directLock) = .ok false) :
    state.isRaised .lever second = false := by
  rcases conflict with ⟨leaf, demanded, rfl, strict⟩
  exact lever_of_not_locking (isLocking_of_demands free demanded) strict route

end Interlocking

namespace State

/-- At most one of two routes has its route relay raised, and at most one its
signal-control relay. -/
structure Excluded (state : State) (first second : ObjectId) : Prop where
  route : ¬(state.isRaised .route first = true ∧ state.isRaised .route second = true)
  signalControl :
    ¬(state.isRaised .signalControl first = true ∧
      state.isRaised .signalControl second = true)

namespace Excluded

variable {state other : State} {first second : ObjectId}

/-- Only the four relays matter. -/
theorem of_isRaised_eq (same : ∀ relay id, other.isRaised relay id = state.isRaised relay id)
    (excluded : state.Excluded first second) : other.Excluded first second where
  route := by
    rw [same, same]
    exact excluded.route
  signalControl := by
    rw [same, same]
    exact excluded.signalControl

theorem initial (plant : Database) (now : Time.Timestamp) (first second : ObjectId) :
    (State.initial plant now).Excluded first second where
  route := by
    rintro ⟨raised, _⟩
    rw [isRaised_initial] at raised
    cases raised
  signalControl := by
    rintro ⟨raised, _⟩
    rw [isRaised_initial] at raised
    cases raised

end Excluded

end State

namespace Stage.Effect

variable {stage : Stage} {box : Interlocking} {state reached : State} {first second : ObjectId}

/-- No stage raises relays of both of two conflicting routes. -/
theorem excluded (effect : Effect stage box box.plant.routeIds state reached)
    (definedFirst : first ∈ box.plant.routeIds) (definedSecond : second ∈ box.plant.routeIds)
    (route : box.plant.kind second = .ok .route) (conflict : box.LocksOut first second)
    (before : state.Excluded first second) : reached.Excluded first second := by
  cases stage with
  | lever =>
    have routeKept := effect.isRaised_eq .route (by decide)
    have signalKept := effect.isRaised_eq .signalControl (by decide)
    constructor
    · rw [routeKept, routeKept]
      exact before.route
    · rw [signalKept, signalKept]
      exact before.signalControl
  | route =>
    have signalKept := effect.isRaised_eq .signalControl (by decide)
    constructor
    · rintro ⟨raisedFirst, raisedSecond⟩
      -- The first route has seen the lever relay dropped over which the second one rose.
      have free := (effect.of_route_raised definedFirst raisedFirst).2.2.2
      have lever := (effect.of_route_raised definedSecond raisedSecond).1
      rw [Interlocking.dropped_of_locksOut conflict route free] at lever
      cases lever
    · rw [signalKept, signalKept]
      exact before.signalControl
  | signalControl =>
    have routeKept := effect.isRaised_eq .route (by decide)
    constructor
    · rw [routeKept, routeKept]
      exact before.route
    · rintro ⟨raisedFirst, raisedSecond⟩
      have routeFirst := (effect.of_signalControl_raised definedFirst raisedFirst).1
      have routeSecond := (effect.of_signalControl_raised definedSecond raisedSecond).1
      exact before.route ⟨routeFirst, routeSecond⟩

end Stage.Effect

namespace Engine

/-- However clients act on an engine that has been loaded, two defined routes of which one
locks the other out never have both route relays raised, and never both signal-control
relays. -/
theorem conflicting_routes_exclude_each_other {data : PlantData} {config : EngineConfig}
    {now : Time.Timestamp} {engine : Engine} (loaded : (load data config now).2 = .ok engine)
    {first second : ObjectId} (definedFirst : first ∈ engine.box.plant.routeIds)
    (definedSecond : second ∈ engine.box.plant.routeIds)
    (conflict : engine.box.LocksOut first second) (actions : List Action) {state : State}
    (reached : (engine.run actions).live = .running state) :
    ¬(state.isRaised .route first = true ∧ state.isRaised .route second = true) ∧
      ¬(state.isRaised .signalControl first = true ∧
        state.isRaised .signalControl second = true) := by
  rcases load_eq_ok loaded with ⟨plant, locks, network, database, _, _, _, rfl⟩
  have consistent := PlantData.consistent_of_buildDatabase database
  have route : plant.kind second = .ok .route := consistent.kind_of_routeIds definedSecond
  have excluded := run_preserves (fun state => state.Excluded first second)
    (fun _ _ _ mutated => .of_isRaised_eq (State.isRaised_mutate mutated))
    (fun _ _ => .of_isRaised_eq fun _ _ => rfl)
    (fun _ _ _ effect => effect.excluded definedFirst definedSecond route conflict)
    actions (State.Excluded.initial plant now first second)
  rw [reached] at excluded
  exact ⟨excluded.route, excluded.signalControl⟩

end Engine

/-- With both levers thrown before the first cycle, both lever relays rise together. -/
theorem Engine.crossing_routes_exclude_each_other :
    ∃ engine state, (load .crossing {} default).2 = .ok engine ∧
      (engine.run [.mutate (.lever 1 .right), .mutate (.lever 2 .left), .cycle]).live =
        .running state ∧
      (state.isRaised .lever 10 = true ∧ state.isRaised .lever 11 = true) ∧
      ¬(state.isRaised .route 10 = true ∧ state.isRaised .route 11 = true) := by
  have checked : (load .crossing {} default).2.toOption.any (fun engine =>
      decide (engine.box.LocksOut 10 11 ∧ 10 ∈ engine.box.plant.routeIds ∧
        11 ∈ engine.box.plant.routeIds) &&
      (engine.run [.mutate (.lever 1 .right), .mutate (.lever 2 .left), .cycle]).live.state?.any
        fun state => state.isRaised .lever 10 && state.isRaised .lever 11) = true := by
    decide +kernel
  rcases Fallible.exists_of_any checked with ⟨engine, loaded, found⟩
  rw [Bool.and_eq_true, decide_eq_true_eq, Option.any_eq_true] at found
  rcases found with ⟨⟨conflict, definedFirst, definedSecond⟩, state, live, raised⟩
  have reached := Live.state?_eq_some.1 live
  have excluded := conflicting_routes_exclude_each_other loaded definedFirst definedSecond
    conflict _ reached
  exact ⟨engine, state, loaded, reached, Bool.and_eq_true_iff.1 raised, excluded.1⟩

end SignalBox
