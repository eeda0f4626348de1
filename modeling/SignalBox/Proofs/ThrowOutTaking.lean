import SignalBox.Proofs.History
import SignalBox.Proofs.LeverFindings

namespace SignalBox

/-!
# Taking over a route by throw-out control

A route that is asked for may claim further routes that its throw-out controls lead to.  The XR
relay of a claimed route tells that it has been taken over.  Whoever works the claimed
route has the first say: the XR relay only rises while the route is idle, that is with its own
lever relay and those of all its controllers dropped and its own lever centred.  A route that
is in use is not taken over by being claimed.

Once it has risen, the relay stays up for as long as the route is claimed and its own lever
relay is up.  What the controllers' lever relays and the route's own lever do meanwhile
plays no part.  Should the lever relay drop, the route has to be idle again.

Guards may switch controls on and off between any two cycles, so being claimed and being idle
are both said of the controls that act in one state.
-/

namespace Interlocking

/-- A throw-out control that acts leads from one route to another with a lever. -/
def Controls (box : Interlocking) (state : State) (source target : ObjectId) : Prop :=
  ∃ control, control ∈ box.plant.throwOuts ∧ control.target = target ∧
    control.kind = .withLever ∧ control.source = source ∧ box.plant.kind source = .ok .route ∧
    isActive state control = .ok true

/-- The route is under station control, its direct lock does not lock, and a route that controls
it is asked for. -/
structure IsClaimed (box : Interlocking) (id : ObjectId) (definition : RouteDefinition)
    (state : State) : Prop where
  station : isCentral state definition = .ok false
  unlocked : box.isLocked? state (box.locks.clause? id .directLock) = .ok false
  requested : ∃ source, box.Controls state source id ∧ box.isRequested state source = .ok true

/-- The lever relays of the route and of all routes that control it are dropped, and the route
is not asked for itself: its lever is centred, or for want of a lever its X relay is dropped
by the cycle that starts in this state. -/
structure IsIdle (box : Interlocking) (id : ObjectId) (definition : RouteDefinition)
    (state : State) : Prop where
  dropped : state.isRaised .lever id = false
  controllers : ∀ source, box.Controls state source id → state.isRaised .lever source = false
  centred : ∀ lever, definition.lever = some lever → state.lever lever = .ok .center
  unasked : definition.lever = none → (box.sweep state).1.isRaised .throwOutX id = false

variable {box : Interlocking} {state final : State} {id : ObjectId}
  {definition : RouteDefinition}

/-- A route is requested by its lever, or for want of one by the X relay found for it. -/
theorem request_snd_iff {current : RouteRelays} {unlocked x requested : Bool}
    (found : box.request state id definition current unlocked = .ok (x, requested)) :
    requested = false ↔ (∀ lever, definition.lever = some lever → state.lever lever = .ok .center) ∧
      (definition.lever = none → x = false) := by
  unfold request at found
  cases own : definition.lever with
  | some lever =>
    rw [own] at found
    rcases Fallible.bind_eq_ok.1 found with ⟨position, entered, same⟩
    cases same
    cases position <;> simp [entered, LeverPosition.isCentered]
  | none =>
    rw [own] at found
    rcases Fallible.bind_eq_ok.1 found with ⟨found, _, same⟩
    cases same
    simp

/-- Whether a route is claimed is a matter of its lock and of the controllers that were found. -/
theorem isClaimed_iff {locked : Bool} {sources : List ObjectId}
    (kept : isCentral state definition = .ok false)
    (lock : box.isLocked? state (box.locks.clause? id .directLock) = .ok locked)
    (own : box.controllers state .withLever id = .ok sources) :
    box.IsClaimed id definition state ↔ locked = false ∧
      ∃ source, source ∈ sources ∧ box.isRequested state source = .ok true := by
  have controls : ∀ source, source ∈ sources ↔ box.Controls state source id :=
    fun source => mem_controllers own
  simp only [controls]
  constructor
  · rintro ⟨_, unlocked, claimed⟩
    cases lock.symm.trans unlocked
    exact ⟨rfl, claimed⟩
  · rintro ⟨rfl, claimed⟩
    exact ⟨kept, lock, claimed⟩

/-- A cycle raises the XR relay of a claimed route that is idle, and keeps it raised on a
claimed route whose lever relay is raised. -/
theorem isRaised_throwOutXr_of_sweep (defined : box.plant.route? id = some definition)
    {report : SweepReport} (swept : box.sweep state = (final, .ok report)) :
    final.isRaised .throwOutXr id = true ↔
      (box.IsClaimed id definition state ∧
        (box.IsIdle id definition state ∨ state.isRaised .lever id = true)) ∧
      (box.IsIdle id definition state ∨ state.isRaised .throwOutXr id = true) := by
  rcases findings_of_sweep defined swept with ⟨current, found, entered, findings, x, xr, _, _⟩
  have lever : state.isRaised .lever id = current.lever := State.isRaised_of_route entered .lever
  have before : state.isRaised .throwOutXr id = current.throwOutXr :=
    State.isRaised_of_route entered .throwOutXr
  have same : (box.sweep state).1 = final := by rw [swept]
  rw [← same] at x
  rw [xr]
  cases findings with
  | central handed lock =>
    constructor
    · nofun
    · rintro ⟨⟨claimed, _⟩, _⟩
      cases handed.symm.trans claimed.station
  | @station locked requested button held ownX sources targets downstream kept lock request
      own controlled throwOut pressed traversed =>
    have controls : ∀ source, source ∈ sources ↔ box.Controls state source id :=
      fun source => mem_controllers own
    have idles : box.IsIdle id definition state ↔ current.lever = false ∧
        (∀ source, source ∈ sources → state.isRaised .lever source = false) ∧
        requested = false := by
      rw [request_snd_iff request, ← lever]
      simp only [controls]
      constructor
      · rintro ⟨dropped, controllers, centred, unasked⟩
        exact ⟨dropped, controllers, centred, fun none => x.symm.trans (unasked none)⟩
      · rintro ⟨dropped, controllers, centred, unasked⟩
        exact ⟨dropped, controllers, centred, fun none => x.trans (unasked none)⟩
    change held.1 = true ↔ _
    rw [throwOutRelays_xr_iff throwOut, isClaimed_iff kept lock own, idles, lever, before]
    cases current.lever <;> grind

end Interlocking

namespace Engine

variable {engine : Engine} {id : ObjectId} {definition : RouteDefinition}

/-- Along every run of an engine that has been loaded whose cycles succeed: the XR relay of a
defined route is raised exactly if one of the cycles so far started with the route idle, and
this cycle and all later ones with the route claimed, and either idle or with its lever relay
raised. -/
theorem routes_are_taken_over_idle {data : PlantData} {config : EngineConfig}
    {now : Time.Timestamp} (loaded : (load data config now).2 = .ok engine)
    (defined : engine.box.plant.route? id = some definition) {actions : List Action}
    (succeed : EachCycle (fun engine => Succeeds engine.cycle.2) engine actions) {state : State}
    (reached : (engine.run actions).live = .running state) :
    state.isRaised .throwOutXr id = true ↔
      Latched (engine.box.IsIdle id definition)
        (fun start => engine.box.IsClaimed id definition start ∧
          (engine.box.IsIdle id definition start ∨ start.isRaised .lever id = true))
        (engine.cycleStarts actions) := by
  refine isRaised_iff_latched (fun _ _ _ swept =>
    Interlocking.isRaised_throwOutXr_of_sweep defined swept) ?_ actions succeed reached
  rcases load_eq_ok loaded with ⟨plant, locks, network, _, _, _, _, rfl⟩
  exact State.isRaised_initial plant now .throwOutXr id

end Engine

/-- The small plant with a control of its first route over the second one. -/
def PlantData.controlling : PlantData :=
  { PlantData.crossing with throwOuts := [{ source := 10, target := 11 }] }

namespace Engine

/-- The first route is asked for during two cycles. -/
def claiming : List Action :=
  [.mutate (.lever 1 .right), .cycle, .cycle]

/-- The first cycle takes the second route over, and raises its lever relay.  The second cycle
keeps it, though it does not find the route idle any more. -/
theorem second_route_is_taken_over_idle :
    ∃ engine state, (load .controlling {} default).2 = .ok engine ∧
      (engine.run claiming).live = .running state ∧
      (engine.cycleStarts claiming).map (State.isRaised · .lever 11) = [false, true] ∧
      state.isRaised .throwOutXr 11 = true ∧
      Latched (engine.box.IsIdle 11 { id := 11, lever := some 2 })
        (fun start => engine.box.IsClaimed 11 { id := 11, lever := some 2 } start ∧
          (engine.box.IsIdle 11 { id := 11, lever := some 2 } start ∨
            start.isRaised .lever 11 = true))
        (engine.cycleStarts claiming) := by
  have checked : (load .controlling {} default).2.toOption.any (fun engine =>
      decide (EachCycle (fun engine => Succeeds engine.cycle.2) engine claiming ∧
        engine.box.plant.route? 11 = some { id := 11, lever := some 2 } ∧
        (engine.cycleStarts claiming).map (State.isRaised · .lever 11) = [false, true]) &&
      (engine.run claiming).live.state?.any fun state => state.isRaised .throwOutXr 11) = true := by
    decide +kernel
  rcases Fallible.exists_of_any checked with ⟨engine, loaded, found⟩
  rw [Bool.and_eq_true, decide_eq_true_eq, Option.any_eq_true] at found
  rcases found with ⟨⟨succeed, defined, levers⟩, state, live, raised⟩
  have reached := Live.state?_eq_some.1 live
  exact ⟨engine, state, loaded, reached, levers, raised,
    (routes_are_taken_over_idle loaded defined succeed reached).1 raised⟩

end Engine

end SignalBox
