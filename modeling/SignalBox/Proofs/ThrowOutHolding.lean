import SignalBox.Proofs.ThrowOutTaking

namespace SignalBox

/-!
# Holding a route by throw-out control

A route that has been set by throw-out control has three relays raised, and each of them is
held by others.  The XR relay stays up with the lever relay, the lever relay takes the YS
relay for the lever of the route, and the YS relay takes the XR relay for idle controllers
and asks for less than at first.  So together they ask for far less than it takes to raise
them.  What they still ask for is said by `Sustains`.

The lever of the route itself is not among it, and neither are the lever, route-lock and
signal-control relays of its controllers.  The button matters only while a route further
down the line has been taken over from this one.
-/

/-- The route has been set by throw-out control. -/
structure State.IsThrownOut (state : State) (id : ObjectId) : Prop where
  xr : state.isRaised .throwOutXr id = true
  ys : state.isRaised .throwOutYs id = true
  lever : state.isRaised .lever id = true

namespace Interlocking

/-- A throw-out control that acts leads from an object on to a route with a lever. -/
def Extends (box : Interlocking) (state : State) (source target : ObjectId) : Prop :=
  ∃ control, control ∈ box.plant.throwOuts ∧ control.source = source ∧
    control.kind = .withLever ∧ control.target = target ∧ box.plant.kind target = .ok .route ∧
    isActive state control = .ok true

/-- The routes locked out are released, and the track circuits of the approach or those behind the
signal are clear. -/
structure IsCleared (box : Interlocking) (id : ObjectId) (state : State) : Prop where
  released : box.LocksReleased id state
  clear : box.TracksClear id .approachLock state ∨ box.TracksClear id .signalControl state

/-- The lever relay of a route that has it raised is kept by the button, for want of a route
further down that has been taken over, or by such a route once it is set. -/
def IsKept (box : Interlocking) (id : ObjectId) (definition : RouteDefinition) (state : State) :
    Prop :=
  isPressed state definition = .ok true ∨
    (∀ target, box.Extends state id target → state.isRaised .throwOutXr target = false) ∨
    ∃ target, box.Extends state id target ∧ state.isRaised .lever target = true ∧
      state.isRaised .throwOutXr target = true

/-- What a route that has been set by throw-out control needs to stay set: it is still claimed and
cleared, and no route further down has been taken over. -/
structure Sustains (box : Interlocking) (id : ObjectId) (definition : RouteDefinition)
    (state : State) : Prop where
  claimed : box.IsClaimed id definition state
  cleared : box.IsCleared id state
  undisturbed : ∀ target, box.Extends state id target →
    state.isRaised .throwOutXr target = false

variable {box : Interlocking} {state final : State} {id : ObjectId}
  {definition : RouteDefinition}

/-- What is looked at on the routes further down are the relays of those that the controls lead
to. -/
theorem any_downstream_iff {targets : List ObjectId} {downstream : List RouteRelays}
    (controlled : box.controlled state id = .ok targets)
    (traversed : targets.mapM state.route = .ok downstream) {test : RouteRelays → Bool} :
    downstream.any test = true ↔ ∃ target, box.Extends state id target ∧
      ∃ relays, state.route target = .ok relays ∧ test relays = true := by
  rw [Fallible.any_of_mapM traversed]
  exact exists_congr fun target => and_congr_left fun _ => mem_controlled controlled

theorem isKept_iff {targets : List ObjectId} {downstream : List RouteRelays} {button : Bool}
    (controlled : box.controlled state id = .ok targets)
    (traversed : targets.mapM state.route = .ok downstream)
    (pressed : isPressed state definition = .ok button) :
    box.IsKept id definition state ↔ (button || !downstream.any RouteRelays.throwOutXr ||
      downstream.any fun relays => relays.lever && relays.throwOutXr) = true := by
  have taken : downstream.any RouteRelays.throwOutXr = false ↔
      ∀ target, box.Extends state id target → state.isRaised .throwOutXr target = false := by
    rw [← Bool.not_eq_true, any_downstream_iff controlled traversed]
    constructor
    · intro none target leads
      rw [← Bool.not_eq_true]
      intro raised
      exact none ⟨target, leads, State.exists_of_isRaised raised⟩
    · rintro dropped ⟨target, leads, relays, entered, raised⟩
      have low := dropped target leads
      rw [State.isRaised_of_route entered] at low
      cases raised.symm.trans low
  have held : (downstream.any fun relays => relays.lever && relays.throwOutXr) = true ↔
      ∃ target, box.Extends state id target ∧ state.isRaised .lever target = true ∧
        state.isRaised .throwOutXr target = true := by
    rw [any_downstream_iff controlled traversed]
    refine exists_congr fun target => and_congr_right fun _ => ?_
    constructor
    · rintro ⟨relays, entered, both⟩
      rw [State.isRaised_of_route entered, State.isRaised_of_route entered]
      exact Bool.and_eq_true_iff.1 both
    · rintro ⟨lever, xr⟩
      rcases State.exists_of_isRaised lever with ⟨relays, entered, raised⟩
      rw [State.isRaised_of_route entered] at xr
      exact ⟨relays, entered, Bool.and_eq_true_iff.2 ⟨raised, xr⟩⟩
  rw [IsKept, ← taken, ← held, pressed]
  simp [or_assoc]

/-- A cycle leaves a route set that has been set by throw-out control exactly if the route is
claimed, cleared and kept. -/
theorem isThrownOut_of_sweep_iff (defined : box.plant.route? id = some definition)
    (thrown : state.IsThrownOut id) {report : SweepReport}
    (swept : box.sweep state = (final, .ok report)) :
    final.IsThrownOut id ↔ box.IsClaimed id definition state ∧ box.IsCleared id state ∧
      box.IsKept id definition state := by
  rcases findings_of_sweep defined swept with ⟨current, found, entered, findings, _, xr, ys, lever⟩
  have wasXr : current.throwOutXr = true :=
    (State.isRaised_of_route entered .throwOutXr).symm.trans thrown.xr
  have wasYs : current.throwOutYs = true :=
    (State.isRaised_of_route entered .throwOutYs).symm.trans thrown.ys
  have wasSet : current.lever = true :=
    (State.isRaised_of_route entered .lever).symm.trans thrown.lever
  have whole : final.IsThrownOut id ↔ found.xr = true ∧ found.ys = true ∧ found.lever = true := by
    rw [← xr, ← ys, ← lever]
    exact ⟨fun set => ⟨set.xr, set.ys, set.lever⟩, fun set => ⟨set.1, set.2.1, set.2.2⟩⟩
  rw [whole]
  cases findings with
  | central handed lock =>
    constructor
    · nofun
    · rintro ⟨claimed, _⟩
      cases handed.symm.trans claimed.station
  | @station locked requested button held ownX sources targets downstream kept lock request
      own controlled throwOut pressed traversed =>
    have xrIff := throwOutRelays_xr_iff throwOut
    have ysIff := throwOutRelays_ys_iff throwOut
    rw [isClaimed_iff kept lock own, isKept_iff controlled traversed pressed]
    constructor
    · rintro ⟨xr, ys, lever⟩
      rcases xrIff.1 xr with ⟨unlocked, claimed, _, _⟩
      rcases ysIff.1 ys with ⟨_, released, _, clear⟩
      refine ⟨⟨by simpa using unlocked, claimed⟩, ⟨released, clear.imp_right And.right⟩, ?_⟩
      have stays := (Bool.and_eq_true_iff.1 lever).2
      rwa [wasSet, Bool.true_and] at stays
    · rintro ⟨⟨rfl, source, member, asked⟩, ⟨released, clear⟩, stays⟩
      have xr : held.1 = true :=
        xrIff.2 ⟨rfl, ⟨source, member, asked⟩, .inr wasSet, fun _ => wasXr⟩
      have ys : held.2 = true :=
        ysIff.2 ⟨List.ne_nil_of_mem member, released, .inr xr, clear.imp_right (⟨wasYs, ·⟩)⟩
      refine ⟨xr, ys, ?_⟩
      simpa [ys, wasSet] using stays

end Interlocking

namespace Engine

variable {engine : Engine} {id : ObjectId} {definition : RouteDefinition}

/-- Along every run of an engine whose cycles succeed, whatever has been done with the engine
before: a defined route that has been set by throw-out control stays set, with its XR, its YS and
its lever relay raised, as long as every cycle starts in a state that sustains it. -/
theorem thrown_out_routes_stay_set (defined : engine.box.plant.route? id = some definition)
    {actions : List Action}
    (succeed : EachCycle (fun engine => Succeeds engine.cycle.2) engine actions)
    (sustained : ∀ start, start ∈ engine.cycleStarts actions →
      engine.box.Sustains id definition start)
    (thrown : engine.live.Satisfies fun state => state.IsThrownOut id) :
    (engine.run actions).live.Satisfies fun state => state.IsThrownOut id := by
  refine run_preserves_of_starts ?_ ?_ ?_ succeed sustained thrown
  · intro state mutation changed mutated thrown
    constructor <;> rw [State.isRaised_mutate mutated]
    · exact thrown.xr
    · exact thrown.ys
    · exact thrown.lever
  · intro state now thrown
    exact ⟨thrown.xr, thrown.ys, thrown.lever⟩
  · intro state final report swept sustains thrown
    exact (Interlocking.isThrownOut_of_sweep_iff defined thrown swept).2
      ⟨sustains.claimed, sustains.cleared, .inr (.inl sustains.undisturbed)⟩

end Engine

/-- Two routes of which the first one controls the second one, and a third one that the second one
locks out.  The second route has a track circuit in its approach and one behind its signal. -/
def PlantData.extending : PlantData where
  objects := [⟨1, "TH71_1", .lever, "TH71"⟩, ⟨2, "TH71_2", .lever, "TH71"⟩,
    ⟨3, "TH71_3", .lever, "TH71"⟩, ⟨10, "TH71_1R", .route, "TH71"⟩,
    ⟨11, "TH71_2R", .route, "TH71"⟩, ⟨12, "TH71_3L", .route, "TH71"⟩,
    ⟨30, "TH71_4T", .trackCircuit, "TH71"⟩, ⟨31, "TH71_5T", .trackCircuit, "TH71"⟩]
  routes := [{ id := 10, lever := some 1, button := some "TH71_AP" },
    { id := 11, lever := some 2, button := some "TH71_BP" }, { id := 12, lever := some 3 }]
  throwOuts := [{ source := 10, target := 11 }]
  lockTable := [⟨"TH71", "TH71_2R", .directLock, "3L"⟩, ⟨"TH71", "TH71_2R", .approachLock, "4T"⟩,
    ⟨"TH71", "TH71_2R", .signalControl, "5T"⟩]

namespace Engine

/-- The lever of the first route is thrown, and the button of the second one is pressed. -/
def throwingOut : List Action :=
  [.mutate (.lever 1 .right), .mutate (.button "TH71_BP" true), .cycle]

/-- The button is let go, the lever of the second route is thrown and centred again, its approach
is occupied, and the route lock of the first route drops. -/
def workingOn : List Action :=
  [.mutate (.button "TH71_BP" false), .mutate (.lever 2 .right), .cycle, .mutate (.lever 2 .center),
    .mutate (.track 30 true), .mutate (.routeLock 10 false), .cycle]

/-- The second route stays set, while the lever relay of the first one rises. -/
theorem second_route_stays_set :
    ∃ engine start final, (load .extending {} default).2 = .ok engine ∧
      (engine.run throwingOut).live = .running start ∧ start.IsThrownOut 11 ∧
      start.isRaised .lever 10 = false ∧
      ((engine.run throwingOut).run workingOn).live = .running final ∧ final.IsThrownOut 11 ∧
      final.isRaised .lever 10 = true := by
  have checked : (load .extending {} default).2.toOption.any (fun engine =>
      decide (engine.box.plant.route? 11 =
          some { id := 11, lever := some 2, button := some "TH71_BP" } ∧
        engine.box.plant.throwOuts = [{ source := 10, target := 11 }] ∧
        engine.box.plant.kind 10 = .ok .route ∧
        EachCycle (fun engine => Succeeds engine.cycle.2) (engine.run throwingOut) workingOn ∧
        ∀ start ∈ (engine.run throwingOut).cycleStarts workingOn,
          engine.box.isLocked? start (engine.box.locks.clause? 11 .directLock) = .ok false ∧
          engine.box.isRequested start 10 = .ok true ∧
          (∀ leaf ∈ engine.box.leavesAt 11 .directLock,
            engine.box.isReleased start leaf = .ok true) ∧
          Clause.check (engine.box.isTrackClear start)
            (engine.box.locks.clause? 11 .signalControl) = .ok true) &&
      ((engine.run throwingOut).live.state?.any fun start =>
        (List.all [.throwOutXr, .throwOutYs, .lever] fun relay => start.isRaised relay 11) &&
          !start.isRaised .lever 10) &&
      ((engine.run throwingOut).run workingOn).live.state?.any fun final =>
        final.isRaised .lever 10) = true := by
    decide +kernel
  rcases Fallible.exists_of_any checked with ⟨engine, loaded, found⟩
  simp only [Bool.and_eq_true, decide_eq_true_eq, Option.any_eq_true, List.all_cons, List.all_nil,
    Bool.and_true, Bool.not_eq_true'] at found
  rcases found with ⟨⟨⟨defined, controls, route, succeed, starts⟩, start, live, ⟨xr, ys, lever⟩,
    low⟩, final, reached, raised⟩
  have thrown : start.IsThrownOut 11 := ⟨xr, ys, lever⟩
  have sustained : ∀ start, start ∈ (engine.run throwingOut).cycleStarts workingOn →
      (engine.run throwingOut).box.Sustains 11
        { id := 11, lever := some 2, button := some "TH71_BP" } start := by
    intro start member
    rcases starts start member with ⟨unlocked, requested, released, clear⟩
    rw [run_box]
    refine ⟨⟨rfl, unlocked, 10,
      ⟨{ source := 10, target := 11 }, ?_, rfl, rfl, rfl, route, rfl⟩, requested⟩,
      ⟨fun leaf listed => ?_, .inr clear⟩, ?_⟩
    · rw [controls]
      exact List.mem_singleton_self _
    · exact (Interlocking.isReleased_iff (released leaf listed)).1 rfl
    · rintro target ⟨control, listed, source, _⟩
      rw [controls] at listed
      rw [List.mem_singleton.1 listed] at source
      cases source
  have started := Live.state?_eq_some.1 live
  have ended := Live.state?_eq_some.1 reached
  have set := thrown_out_routes_stay_set (by rw [run_box]; exact defined) succeed sustained
    (by rw [started]; exact thrown)
  rw [ended] at set
  exact ⟨engine, start, final, loaded, started, thrown, low, ended, set, raised⟩

end Engine

end SignalBox
