import SignalBox.Proofs.Backing
import SignalBox.Proofs.Runs

namespace SignalBox

/-!
# The cascade of the relays

A route relay stands on its lever relay, and a signal-control relay on its route relay.
Nothing in the way the relays are stored says so.  It comes from the order of the stages,
and within a cycle it does not even hold: a lever stage may drop a lever relay below a
route relay that only the next stage looks at again.

So the cascade belongs to whole cycles.  A cycle that succeeds brings it about in whatever
state it starts, and what clients do between cycles writes none of the relays.  A cycle
that fails behind its lever stage can leave it broken, which is why a run is followed only
as long as its cycles succeed.
-/

namespace State

/-- Among the given routes, no route relay is raised without its lever relay, and no
signal-control relay without its route relay. -/
structure Cascades (state : State) (routes : List ObjectId) : Prop where
  route : ∀ id, id ∈ routes → state.isRaised .route id = true → state.isRaised .lever id = true
  signalControl : ∀ id, id ∈ routes →
    state.isRaised .signalControl id = true → state.isRaised .route id = true

namespace Cascades

variable {state other : State} {routes : List ObjectId}

theorem of_isRaised_eq (same : ∀ relay id, other.isRaised relay id = state.isRaised relay id)
    (cascades : state.Cascades routes) : other.Cascades routes where
  route id listed raised := by
    rw [same] at raised ⊢
    exact cascades.route id listed raised
  signalControl id listed raised := by
    rw [same] at raised ⊢
    exact cascades.signalControl id listed raised

theorem initial (plant : Database) (now : Time.Timestamp) (routes : List ObjectId) :
    (State.initial plant now).Cascades routes where
  route id _ raised := by
    rw [isRaised_initial] at raised
    cases raised
  signalControl id _ raised := by
    rw [isRaised_initial] at raised
    cases raised

end Cascades

end State

/-- A successful cycle leaves a cascade, whatever it found. -/
theorem Interlocking.cascades_of_sweep {box : Interlocking} {start final : State}
    {report : SweepReport} (swept : box.sweep start = (final, .ok report)) :
    final.Cascades box.plant.routeIds where
  route _ defined raised := (backed_of_route_raised swept defined raised).1
  signalControl _ defined raised := (clear_of_signalControl_raised swept defined raised).1

namespace Engine

variable {engine : Engine}

/-- An action keeps the cascade, if it is not a cycle that fails. -/
theorem cascades_act {action : Action}
    (succeeds : action.isCycle = true → Succeeds engine.cycle.2)
    (before : engine.live.Satisfies fun state => state.Cascades engine.box.plant.routeIds) :
    (engine.act action).live.Satisfies fun state => state.Cascades engine.box.plant.routeIds := by
  cases after : (engine.act action).live with
  | lost => exact True.intro
  | running reached =>
    rcases effect_of_act after with ⟨state, live, effect⟩
    rw [live] at before
    change state.Cascades engine.box.plant.routeIds at before
    cases effect with
    | refused failed => exact before
    | mutated done => exact before.of_isRaised_eq (State.isRaised_mutate done)
    | moved =>
      refine before.of_isRaised_eq ?_
      intro relay id
      rfl
    | swept =>
      rcases (cycle_succeeds live).1 (succeeds rfl) with ⟨report, succeeded⟩
      exact Interlocking.cascades_of_sweep (Prod.ext rfl succeeded)

/-- Cycles that succeed keep the cascade along a run. -/
theorem cascades_run {actions : List Action}
    (succeed : EachCycle (fun engine => Succeeds engine.cycle.2) engine actions)
    (before : engine.live.Satisfies fun state => state.Cascades engine.box.plant.routeIds) :
    (engine.run actions).live.Satisfies
      fun state => state.Cascades engine.box.plant.routeIds := by
  induction actions generalizing engine with
  | nil => exact before
  | cons action rest inductionHypothesis =>
    have next := cascades_act succeed.1 before
    rw [← act_box engine action] at next ⊢
    exact inductionHypothesis succeed.2 next

/-- Along every run of an engine that has been loaded, as long as its cycles succeed, the
relays cascade in every state, between cycles as well as behind them; and one successful
cycle of any box makes them cascade, whatever state it starts in. -/
theorem relays_cascade {data : PlantData} {config : EngineConfig} {now : Time.Timestamp}
    (loaded : (load data config now).2 = .ok engine) :
    (∀ actions state, EachCycle (fun engine => Succeeds engine.cycle.2) engine actions →
      (engine.run actions).live = .running state → state.Cascades engine.box.plant.routeIds) ∧
    ∀ (box : Interlocking) (start final : State) (report : SweepReport),
      box.sweep start = (final, .ok report) → final.Cascades box.plant.routeIds := by
  constructor
  · intro actions state succeed reached
    rcases load_eq_ok loaded with ⟨plant, locks, network, _, _, _, _, rfl⟩
    have cascades := cascades_run succeed (State.Cascades.initial plant now plant.routeIds)
    rw [reached] at cascades
    exact cascades
  · intro box start final report swept
    exact Interlocking.cascades_of_sweep swept

/-- In the small plant the first route is set and its lever taken back.  All its relays
stay raised until the next cycle, and drop with it. -/
theorem crossing_relays_cascade :
    ∃ engine set dropped, (load .crossing {} default).2 = .ok engine ∧
      (engine.run [.mutate (.lever 1 .right), .cycle, .mutate (.lever 1 .center)]).live =
        .running set ∧
      set.isRaised .signalControl 10 = true ∧ set.Cascades engine.box.plant.routeIds ∧
      (engine.run [.mutate (.lever 1 .right), .cycle, .mutate (.lever 1 .center), .cycle]).live =
        .running dropped ∧
      dropped.isRaised .signalControl 10 = false ∧
      dropped.Cascades engine.box.plant.routeIds := by
  have checked : (load .crossing {} default).2.toOption.any (fun engine =>
      decide (EachCycle (fun engine => Succeeds engine.cycle.2) engine
        [.mutate (.lever 1 .right), .cycle, .mutate (.lever 1 .center), .cycle]) &&
      ((engine.run [.mutate (.lever 1 .right), .cycle, .mutate (.lever 1 .center)]).live.state?.any
        fun state => state.isRaised .signalControl 10) &&
      (engine.run [.mutate (.lever 1 .right), .cycle, .mutate (.lever 1 .center), .cycle]
        ).live.state?.any fun state => !state.isRaised .signalControl 10) = true := by
    decide +kernel
  rcases Fallible.exists_of_any checked with ⟨engine, loaded, found⟩
  rw [Bool.and_eq_true, Bool.and_eq_true, decide_eq_true_eq, Option.any_eq_true,
    Option.any_eq_true] at found
  rcases found with ⟨⟨succeed, set, live, raised⟩, dropped, liveLater, low⟩
  have reached := Live.state?_eq_some.1 live
  have reachedLater := Live.state?_eq_some.1 liveLater
  have cascade := (relays_cascade loaded).1
  have earlier := (@eachCycle_append _ engine
    [.mutate (.lever 1 .right), .cycle, .mutate (.lever 1 .center)] [.cycle]).1 succeed
  exact ⟨engine, set, dropped, loaded, reached, raised, cascade _ set earlier.1 reached,
    reachedLater, Bool.not_eq_eq_eq_not.1 low, cascade _ dropped succeed reachedLater⟩

end Engine

end SignalBox
