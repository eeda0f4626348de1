import SignalBox.Proofs.History
import SignalBox.Proofs.LeverFindings

namespace SignalBox

/-!
# Routes without lever

A route without lever is asked for by its X relay, and the X relay by the lever relays of the
routes whose lever-less controls lead to it.  It is only picked up while the last track
circuit of the approach is not held.  Once it is up, the track circuit is not looked at any
more: the relay stays as long as the direct lock does not lock and one of the sources is set,
be it another one than before.

The lever relays of the sources are those that earlier cycles have left, and guards may
switch controls on and off between any two cycles.  So the relay is described by the history
of the run.  A route with a lever has no use for the relay, and no cycle ever raises it.
-/

namespace Interlocking

/-- The direct lock of the route does not lock, and a route that feeds it is set. -/
structure IsFed (box : Interlocking) (id : ObjectId) (state : State) : Prop where
  unlocked : box.isLocked? state (box.locks.clause? id .directLock) = .ok false
  source : ∃ source, box.Feeds state source id ∧ state.isRaised .lever source = true

variable {box : Interlocking} {state final reached : State} {id lever : ObjectId}
  {definition : RouteDefinition}

/-- A cycle raises the X relay of a route that is fed and has its final track circuit free, and
keeps it raised on a route that is fed. -/
theorem isRaised_throwOutX_of_sweep (defined : box.plant.route? id = some definition)
    (leverless : definition.lever = none) (station : definition.centralControlLever = none)
    {report : SweepReport} (swept : box.sweep state = (final, .ok report)) :
    final.isRaised .throwOutX id = true ↔
      box.IsFed id state ∧
        (box.HasFreeTrack id state ∨ state.isRaised .throwOutX id = true) := by
  rcases findings_of_sweep defined swept with ⟨current, found, entered, findings, x, _, _, _⟩
  rw [x, State.isRaised_of_route entered]
  cases findings with
  | central handed lock =>
    rw [isCentral, station] at handed
    cases handed
  | @station locked requested button held asked sources targets downstream kept lock request own
      controlled throwOut pressed traversed =>
    rw [Interlocking.request, leverless] at request
    rcases Fallible.bind_eq_ok.1 request with ⟨value, given, same⟩
    cases same
    have fed : box.IsFed id state ↔ locked = false ∧
        ∃ source, box.Feeds state source id ∧ state.isRaised .lever source = true := by
      constructor
      · rintro ⟨unlocked, source⟩
        cases lock.symm.trans unlocked
        exact ⟨rfl, source⟩
      · rintro ⟨rfl, source⟩
        exact ⟨lock, source⟩
    refine (throwOutX_iff given).trans ?_
    rw [fed, Bool.not_eq_true', and_assoc]
    rfl

/-- No stage raises the X relay of a route with a lever. -/
theorem throwOutX_dropped_of_effect {stage : Stage}
    (effect : Stage.Effect stage box box.plant.routeIds state reached)
    (defined : box.plant.route? id = some definition) (own : definition.lever = some lever)
    (dropped : state.isRaised .throwOutX id = false) : reached.isRaised .throwOutX id = false := by
  cases stage with
  | lever =>
    rcases effect.written id (Database.mem_routeIds_of_route? defined) with
      ⟨current, relays, _, given, written⟩
    rcases Stage.next_lever_eq_ok.1 given with ⟨found, computed, rfl⟩
    rw [State.isRaised_of_route written]
    cases (leverRelays_eq_ok_iff defined).1 computed with
    | central => rfl
    | station _ _ request =>
      rw [Interlocking.request, own] at request
      rcases Fallible.bind_eq_ok.1 request with ⟨position, _, same⟩
      cases same
      rfl
  | route => exact (effect.isRaised_eq .throwOutX (by decide) id).trans dropped
  | signalControl => exact (effect.isRaised_eq .throwOutX (by decide) id).trans dropped

end Interlocking

namespace Engine

variable {engine : Engine}

/-- Along every run of an engine that has been loaded: where the cycles succeed, the X relay of a
defined route without lever and without central control is raised exactly if one of the cycles
so far started with its final track circuit free, and this cycle and all later ones with the route
fed.  The X relay of a defined route with a lever is never raised, whether or not the cycles
succeed. -/
theorem leverless_routes_follow_their_sources {data : PlantData} {config : EngineConfig}
    {now : Time.Timestamp} (loaded : (load data config now).2 = .ok engine) :
    (∀ id definition, engine.box.plant.route? id = some definition → definition.lever = none →
      definition.centralControlLever = none → ∀ actions,
      EachCycle (fun engine => Succeeds engine.cycle.2) engine actions → ∀ state,
      (engine.run actions).live = .running state →
        (state.isRaised .throwOutX id = true ↔
          Latched (engine.box.HasFreeTrack id) (engine.box.IsFed id)
            (engine.cycleStarts actions))) ∧
    ∀ id definition lever, engine.box.plant.route? id = some definition →
      definition.lever = some lever → ∀ actions state,
      (engine.run actions).live = .running state → state.isRaised .throwOutX id = false := by
  have initial : ∀ id, engine.live.Satisfies fun state => state.isRaised .throwOutX id = false := by
    rcases load_eq_ok loaded with ⟨plant, locks, network, _, _, _, _, rfl⟩
    exact fun id => State.isRaised_initial plant now .throwOutX id
  constructor
  · intro id definition defined leverless station actions succeed state reached
    exact isRaised_iff_latched (fun _ _ _ swept =>
      Interlocking.isRaised_throwOutX_of_sweep defined leverless station swept) (initial id)
      actions succeed reached
  · intro id definition lever defined own actions state reached
    have kept : (engine.run actions).live.Satisfies
        fun state => state.isRaised .throwOutX id = false := by
      refine run_preserves _ ?_ ?_ ?_ actions (initial id)
      · intro state mutation changed mutated dropped
        rwa [State.isRaised_mutate mutated]
      · intro state now dropped
        exact dropped
      · intro stage state reached effect dropped
        exact Interlocking.throwOutX_dropped_of_effect effect defined own dropped
    rwa [reached] at kept

end Engine

/-- Two routes with levers that both lead on to a third one without, whose approach ends in a track
circuit. -/
def PlantData.following : PlantData where
  objects := [⟨1, "TH71_1", .lever, "TH71"⟩, ⟨2, "TH71_2", .lever, "TH71"⟩,
    ⟨10, "TH71_1R", .route, "TH71"⟩, ⟨11, "TH71_2R", .route, "TH71"⟩,
    ⟨13, "TH71_1RB", .route, "TH71"⟩, ⟨30, "TH71_3T", .trackCircuit, "TH71"⟩]
  routes := [{ id := 10, lever := some 1 }, { id := 11, lever := some 2 }, { id := 13 }]
  throwOuts := [{ source := 10, target := 13, kind := .withoutLever },
    { source := 11, target := 13, kind := .withoutLever }]
  lockTable := [⟨"TH71", "TH71_1RB", .approachLock, "3T"⟩]

namespace Engine

/-- The first route is set, and once it is followed the track circuit is held.  The second route
takes over from the first. -/
def handingOver : List Action :=
  [.mutate (.lever 1 .right), .cycle, .cycle, .mutate (.trackLock 30 true),
    .mutate (.lever 2 .right), .cycle, .mutate (.lever 1 .center), .cycle, .cycle]

/-- The X relay of the third route has stayed up through the change of its source. -/
theorem third_route_follows_both :
    ∃ engine state circuit, (load .following {} default).2 = .ok engine ∧
      (engine.run handingOver).live = .running state ∧
      state.track 30 = .ok circuit ∧ circuit.locked = true ∧
      state.isRaised .lever 10 = false ∧ state.isRaised .throwOutX 13 = true ∧
      Latched (engine.box.HasFreeTrack 13) (engine.box.IsFed 13)
        (engine.cycleStarts handingOver) ∧
      state.isRaised .throwOutX 11 = false := by
  have checked : (load .following {} default).2.toOption.any (fun engine =>
      decide (EachCycle (fun engine => Succeeds engine.cycle.2) engine handingOver ∧
        engine.box.plant.route? 11 = some { id := 11, lever := some 2 } ∧
        engine.box.plant.route? 13 = some { id := 13 }) &&
      (engine.run handingOver).live.state?.any fun state =>
        (state.track 30).toOption.any TrackState.locked &&
          (!state.isRaised .lever 10 && state.isRaised .throwOutX 13)) = true := by
    decide +kernel
  rcases Fallible.exists_of_any checked with ⟨engine, loaded, found⟩
  rw [Bool.and_eq_true, decide_eq_true_eq, Option.any_eq_true] at found
  rcases found with ⟨⟨succeed, second, third⟩, state, live, shown⟩
  rcases Bool.and_eq_true_iff.1 shown with ⟨held, relays⟩
  rcases Bool.and_eq_true_iff.1 relays with ⟨dropped, raised⟩
  rw [Bool.not_eq_true'] at dropped
  rcases Fallible.exists_of_any held with ⟨circuit, entered, locked⟩
  have reached := Live.state?_eq_some.1 live
  rcases leverless_routes_follow_their_sources loaded with ⟨leverless, withLever⟩
  exact ⟨engine, state, circuit, loaded, reached, entered, locked, dropped, raised,
    (leverless 13 _ third rfl rfl handingOver succeed state reached).1 raised,
    withLever 11 _ 2 second rfl handingOver state reached⟩

end Engine

end SignalBox
