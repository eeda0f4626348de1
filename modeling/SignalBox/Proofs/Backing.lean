import SignalBox.Proofs.Predicates

namespace SignalBox

/-!
# What a raised relay rests on

The route stage raises a route relay where the lever relay is raised and the direct lock
and the signal control of the route let it, and the signal-control stage raises a
signal-control relay where the route relay is raised and the way is clear.  Both look at a
state in the middle of a cycle.  What they found is still so at its end, as the stages
behind them write no lever relay and no input.

Nothing is assumed of the state in which the cycle starts.  Relays that are raised there
without any reason have been dropped when the cycle is over.
-/

/-! ## Relays raised by a stage -/

namespace Stage.Effect

variable {box : Interlocking} {routes : List ObjectId} {state reached : State} {id : ObjectId}

/-- A route relay is only raised over a raised lever relay, and with its direct lock
unlocked, the route ready and nothing locking it. -/
theorem of_route_raised (effect : Effect .route box routes state reached)
    (visited : id ∈ routes) (raised : reached.isRaised .route id = true) :
    state.isRaised .lever id = true ∧
      Clause.check (box.isUnlocked state) (box.locks.clause? id .directLock) = .ok true ∧
      Clause.check (box.isRouteReady state) (box.locks.clause? id .signalControl) = .ok true ∧
      box.isLocked? state (box.locks.clause? id .directLock) = .ok false := by
  rcases effect.written id visited with ⟨current, relays, entry, given, after⟩
  rcases next_route_eq_ok.1 given with
    ⟨unlocked, ready, locked, firstCheck, secondCheck, thirdCheck, rfl⟩
  rw [State.isRaised_of_route after] at raised
  change (current.lever && unlocked && ready && !locked) = true at raised
  rw [State.isRaised_of_route entry]
  simp only [Bool.and_eq_true, Bool.not_eq_true'] at raised
  rcases raised with ⟨⟨⟨lever, rfl⟩, rfl⟩, rfl⟩
  exact ⟨lever, firstCheck, secondCheck, thirdCheck⟩

/-- A signal-control relay is only raised over a raised route relay, and with the way
clear and nothing locking the route. -/
theorem of_signalControl_raised (effect : Effect .signalControl box routes state reached)
    (visited : id ∈ routes) (raised : reached.isRaised .signalControl id = true) :
    state.isRaised .route id = true ∧
      Clause.check (box.isSignalClear state) (box.locks.clause? id .signalControl) =
        .ok true ∧
      box.isLocked? state (box.locks.clause? id .directLock) = .ok false := by
  rcases effect.written id visited with ⟨current, relays, entry, given, after⟩
  rcases next_signalControl_eq_ok.1 given with ⟨clear, locked, firstCheck, secondCheck, rfl⟩
  rw [State.isRaised_of_route after] at raised
  change (current.route && clear && !locked) = true at raised
  rw [State.isRaised_of_route entry]
  simp only [Bool.and_eq_true, Bool.not_eq_true'] at raised
  rcases raised with ⟨⟨route, rfl⟩, rfl⟩
  exact ⟨route, firstCheck, secondCheck⟩

end Stage.Effect

namespace Interlocking

variable {box : Interlocking} {state final : State} {id : ObjectId}

/-! ## Backed routes -/

/-- A route that may be set: its direct lock is free, it is ready, and everything that the
direct lock cannot do without is in place. -/
structure RouteBacked (box : Interlocking) (state : State) (id : ObjectId) : Prop where
  free : box.isLocked? state (box.locks.clause? id .directLock) = .ok false
  ready : Clause.check (box.isRouteReady state) (box.locks.clause? id .signalControl) = .ok true
  settled : ∀ leaf, leaf ∈ box.demands id → box.plant.kind leaf.target = .ok .switchingMachine →
    ∃ machine, state.machine leaf.target = .ok machine ∧ machine.settledAt leaf.position = true
  clear : ∀ leaf, leaf ∈ box.demands id → box.plant.kind leaf.target = .ok .trackCircuit →
    ∃ track, state.track leaf.target = .ok track ∧
      track.occupiedFor state.now leaf.timer = false
  placed : ∀ leaf, leaf ∈ box.demands id → box.plant.kind leaf.target = .ok .directionRoute →
    ∀ side, leaf.side = some side → state.directionRoute leaf.target = .ok side

namespace RouteBacked

theorem of_checks
    (unlocked : Clause.check (box.isUnlocked state) (box.locks.clause? id .directLock) = .ok true)
    (ready : Clause.check (box.isRouteReady state) (box.locks.clause? id .signalControl) =
      .ok true)
    (free : box.isLocked? state (box.locks.clause? id .directLock) = .ok false) :
    RouteBacked box state id where
  free := free
  ready := ready
  settled _ demanded machine := settled_of_isUnlocked (ask_of_demands unlocked demanded) machine
  clear _ demanded track := clear_of_isUnlocked (ask_of_demands unlocked demanded) track
  placed _ demanded route _ asked :=
    side_of_isUnlocked (ask_of_demands unlocked demanded) route asked

/-- States that look alike back the same routes. -/
theorem of_sameView (same : State.SameView final state) (backed : RouteBacked box state id) :
    RouteBacked box final id where
  free := by
    rw [same.sameLocks.isLocked?_eq]
    exact backed.free
  ready := by
    rw [same.isRouteReady_eq]
    exact backed.ready
  settled leaf demanded machine := by
    unfold State.machine
    rw [same.machines]
    exact backed.settled leaf demanded machine
  clear leaf demanded track := by
    unfold State.track
    rw [same.tracks, same.now]
    exact backed.clear leaf demanded track
  placed leaf demanded route side asked := by
    unfold State.directionRoute
    rw [same.directionRoutes]
    exact backed.placed leaf demanded route side asked

end RouteBacked

section Sweep

variable {report : SweepReport} (swept : box.sweep state = (final, .ok report))
  (defined : id ∈ box.plant.routeIds)
include swept defined

/-- A route relay raised after a cycle has its lever relay raised and is backed. -/
theorem backed_of_route_raised (raised : final.isRaised .route id = true) :
    final.isRaised .lever id = true ∧ RouteBacked box final id := by
  rcases effects_of_sweep swept with ⟨first, second, _, routeEffect, signalEffect⟩
  have afterSignal : State.SameView final second := .of_effect signalEffect (by decide)
  have afterRoute : State.SameView second first := .of_effect routeEffect (by decide)
  have same := afterSignal.trans afterRoute
  rw [signalEffect.isRaised_eq .route (by decide)] at raised
  rcases routeEffect.of_route_raised defined raised with ⟨lever, unlocked, ready, free⟩
  constructor
  · rw [same.lever]
    exact lever
  · exact (RouteBacked.of_checks unlocked ready free).of_sameView same

/-- A signal-control relay raised after a cycle has its route relay raised and its way
clear. -/
theorem clear_of_signalControl_raised (raised : final.isRaised .signalControl id = true) :
    final.isRaised .route id = true ∧
      Clause.check (box.isSignalClear final) (box.locks.clause? id .signalControl) =
        .ok true := by
  rcases effects_of_sweep swept with ⟨first, second, _, _, signalEffect⟩
  have afterSignal : State.SameView final second := .of_effect signalEffect (by decide)
  rcases signalEffect.of_signalControl_raised defined raised with ⟨route, clear, _⟩
  constructor
  · rw [signalEffect.isRaised_eq .route (by decide)]
    exact route
  · rw [afterSignal.isSignalClear_eq]
    exact clear

end Sweep

/-- After a successful cycle, whatever state it started in, every raised route relay is
backed by the final state, and every raised signal-control relay has its way clear there as
well. -/
theorem raised_relays_are_backed {report : SweepReport}
    (swept : box.sweep state = (final, .ok report)) (defined : id ∈ box.plant.routeIds) :
    (final.isRaised .route id = true → RouteBacked box final id) ∧
      (final.isRaised .signalControl id = true →
        RouteBacked box final id ∧
          Clause.check (box.isSignalClear final) (box.locks.clause? id .signalControl) =
            .ok true) := by
  constructor
  · intro raised
    exact (backed_of_route_raised swept defined raised).2
  · intro raised
    rcases clear_of_signalControl_raised swept defined raised with ⟨route, clear⟩
    exact ⟨(backed_of_route_raised swept defined route).2, clear⟩

/-- A box of one route over a machine and a track circuit. -/
def single : Interlocking where
  plant := {
    objects := [⟨1, "TH71_1", .lever, "TH71"⟩, ⟨10, "TH71_1R", .route, "TH71"⟩,
      ⟨20, "TH71_W51", .switchingMachine, "TH71"⟩, ⟨30, "TH71_3T", .trackCircuit, "TH71"⟩]
    definitions := [{ id := 10, lever := some 1 }] }
  locks := (LockTable.insert {} 10 .directLock
    (.all [.leaf { target := 20, direction := some .normal }, .leaf { target := 30 }])).insert
      10 .signalControl (.leaf { target := 30 })

/-- The state in which the lever of the route has been thrown. -/
def singleThrown : State :=
  { State.initial single.plant default with levers := Table.ofList [(1, .right)] }

theorem single_raises_a_backed_relay :
    ∃ final report, single.sweep singleThrown = (final, .ok report) ∧
      final.isRaised .signalControl 10 = true ∧ RouteBacked single final 10 := by
  have swept : Succeeds (single.sweep singleThrown).2 := Fallible.isOk_iff.1 (by decide)
  have raised : (single.sweep singleThrown).1.isRaised .signalControl 10 = true := by decide
  rcases swept with ⟨report, done⟩
  have same : single.sweep singleThrown = ((single.sweep singleThrown).1, .ok report) :=
    Prod.ext rfl done
  have backed := (raised_relays_are_backed same (by decide)).2 raised
  exact ⟨_, report, same, raised, backed.1⟩

end Interlocking

end SignalBox
