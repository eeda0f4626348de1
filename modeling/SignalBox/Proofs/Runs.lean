import SignalBox.Engine
import SignalBox.Proofs.Consistency
import SignalBox.Proofs.Places
import SignalBox.Proofs.Stages

namespace SignalBox

/-!
# Runs of an engine

A client acts on a loaded engine by mutations, by moving its clock and by cycles, in any
order and any number of times.  Actions that fail are part of a run as much as those that
succeed.  Replacing the live state is not an action: it would start a run from anywhere.

An action replaces the live state only.  So what a property of states needs in order to
hold along all runs is said of a mutation, of the clock and of a stage, and no more.
-/

open Time (Duration Timestamp)

/-- What a client does to an engine. -/
inductive Action where
  | mutate (mutation : Mutation)
  | advance (span : Duration)
  | cycle

/-- Whether an action is an evaluation cycle. -/
def Action.isCycle : Action → Bool
  | cycle => true
  | _ => false

/-- What an action does to the live state.  A mutation that is refused does nothing, while a
cycle that fails may have written something. -/
inductive Action.Effect (box : Interlocking) : Action → State → State → Prop
  | refused {mutation : Mutation} {state : State} {missing : Missing}
      (failed : state.mutate mutation = .error missing) :
      Effect box (.mutate mutation) state state
  | mutated {mutation : Mutation} {state changed : State}
      (done : state.mutate mutation = .ok changed) :
      Effect box (.mutate mutation) state changed
  | moved (span : Duration) (state : State) (now : Timestamp) :
      Effect box (.advance span) state { state with now }
  | swept (state : State) : Effect box .cycle state (box.sweep state).1

/-- The property holds of the live state, as long as there is one. -/
def Live.Satisfies (property : State → Prop) : Live → Prop
  | running state => property state
  | lost => True

/-- The live state, if there is one. -/
def Live.state? : Live → Option State
  | running state => some state
  | lost => none

theorem Live.state?_eq_some {live : Live} {state : State} :
    live.state? = some state ↔ live = .running state := by
  cases live with
  | running other => simp [state?]
  | lost => simp [state?]

namespace Engine

/-- The engine after an action, whether or not the action succeeded. -/
def act (engine : Engine) : Action → Engine
  | .mutate mutation => (engine.mutate mutation).1
  | .advance span => (engine.advance span).1
  | .cycle => engine.cycle.1

/-- The engine after several actions. -/
def run (engine : Engine) (actions : List Action) : Engine :=
  actions.foldl act engine

/-! ## Loading -/

/-- An engine that was loaded passed every section of the loading, and starts in the
initial state of its plant. -/
theorem load_eq_ok {data : PlantData} {config : EngineConfig} {now : Timestamp}
    {engine : Engine} (loaded : (load data config now).2 = .ok engine) :
    ∃ plant locks network, data.buildDatabase = .ok plant ∧
      (LockTable.build plant config data.lockTable).2 = .ok locks ∧
      SignalNetwork.create data.signals data.signalTypes config.maxSignalDepth = .ok network ∧
      network.checkReferences plant = .ok () ∧
      engine = ⟨config, ⟨plant, locks⟩, network, .running (State.initial plant now)⟩ := by
  unfold load at loaded
  cases database : data.buildDatabase with
  | error fault =>
    rw [database] at loaded
    cases loaded
  | ok plant =>
    rw [database] at loaded
    dsimp only at loaded
    rcases built : LockTable.build plant config data.lockTable with ⟨notices, outcome⟩
    rw [built] at loaded
    cases outcome with
    | error error => cases loaded
    | ok locks =>
      dsimp only at loaded
      cases created : SignalNetwork.create data.signals data.signalTypes
          config.maxSignalDepth with
      | error fault =>
        rw [created] at loaded
        cases loaded
      | ok network =>
        rw [created] at loaded
        dsimp only at loaded
        cases checked : network.checkReferences plant with
        | error error =>
          rw [checked] at loaded
          cases loaded
        | ok =>
          rw [checked] at loaded
          cases loaded
          exact ⟨plant, locks, network, rfl, congrArg Prod.snd built, rfl, checked, rfl⟩

theorem live_of_load {data : PlantData} {config : EngineConfig} {now : Timestamp}
    {engine : Engine} (loaded : (load data config now).2 = .ok engine) :
    engine.live = .running (State.initial engine.box.plant now) := by
  rcases load_eq_ok loaded with ⟨plant, locks, network, _, _, _, _, rfl⟩
  rfl

/-! ## Operations that succeed -/

section Operations

variable {engine : Engine}

theorem snapshot_eq_ok {state : State} :
    engine.snapshot = .ok state ↔ engine.live = .running state := by
  unfold snapshot
  cases engine.live with
  | lost => simp
  | running other => simp

theorem cycle_eq_ok {reached : Engine} {report : SweepReport}
    (cycled : engine.cycle = (reached, .ok report)) :
    ∃ state final, engine.live = .running state ∧
      engine.box.sweep state = (final, .ok report) ∧ reached = engine.withState final := by
  unfold cycle at cycled
  cases live : engine.live with
  | lost =>
    rw [live] at cycled
    cases cycled
  | running state =>
    rw [live] at cycled
    dsimp only at cycled
    rcases swept : engine.box.sweep state with ⟨final, outcome⟩
    rw [swept] at cycled
    rcases Prod.mk.inj cycled with ⟨same, succeeded⟩
    rw [Fallible.mapError_eq_ok] at succeeded
    exact ⟨state, final, rfl, succeeded ▸ swept, same.symm⟩

theorem aspects_eq_ok {names : List String} {answers : Table String Aspect} :
    engine.aspects names = .ok answers ↔
      ∃ state, engine.live = .running state ∧
        engine.network.aspects state names = .ok answers := by
  simp only [aspects, Fallible.bind_eq_ok, snapshot_eq_ok, Fallible.mapError_eq_ok]

theorem cycle_succeeds {state : State} (live : engine.live = .running state) :
    Succeeds engine.cycle.2 ↔ Succeeds (engine.box.sweep state).2 := by
  unfold cycle
  rw [live]
  exact Fallible.mapError_succeeds

theorem allAspects_succeeds {state : State} (live : engine.live = .running state) :
    Succeeds engine.allAspects ↔ Succeeds (engine.network.aspects state engine.network.names) := by
  unfold allAspects aspects
  rw [Fallible.bind_of_eq_ok (snapshot_eq_ok.2 live), Fallible.mapError_succeeds]

theorem isDetectorLocked_succeeds {state : State} (live : engine.live = .running state)
    (machine : ObjectId) :
    Succeeds (engine.isDetectorLocked machine) ↔
      Succeeds (engine.box.isDetectorLocked state machine) := by
  unfold isDetectorLocked
  rw [Fallible.bind_of_eq_ok (snapshot_eq_ok.2 live), Fallible.mapError_succeeds]

/-- A query with the signals ahead is a query for more names. -/
theorem aspectsWithNext_eq (names : List String) :
    engine.aspectsWithNext names =
      engine.aspects (names.flatMap fun name => name :: engine.network.graph.nextSignals name) :=
  rfl

end Operations

/-! ## Actions -/

/-- An action leaves everything but the live state. -/
theorem act_rest (engine : Engine) (action : Action) :
    engine.act action = { engine with live := (engine.act action).live } := by
  rcases engine with ⟨config, box, network, live⟩
  cases live with
  | lost => cases action <;> rfl
  | running state =>
    cases action with
    | mutate mutation =>
      simp only [act, mutate]
      cases state.mutate mutation <;> rfl
    | advance span =>
      simp only [act, advance]
      cases state.now.advance? span <;> rfl
    | cycle => rfl

theorem act_box (engine : Engine) (action : Action) : (engine.act action).box = engine.box := by
  rw [act_rest]

theorem act_network (engine : Engine) (action : Action) :
    (engine.act action).network = engine.network := by
  rw [act_rest]

theorem run_box (engine : Engine) (actions : List Action) :
    (engine.run actions).box = engine.box := by
  induction actions generalizing engine with
  | nil => rfl
  | cons action rest inductionHypothesis =>
    exact (inductionHypothesis (engine.act action)).trans (act_box engine action)

theorem run_network (engine : Engine) (actions : List Action) :
    (engine.run actions).network = engine.network := by
  induction actions generalizing engine with
  | nil => rfl
  | cons action rest inductionHypothesis =>
    exact (inductionHypothesis (engine.act action)).trans (act_network engine action)

theorem run_append (engine : Engine) (earlier later : List Action) :
    engine.run (earlier ++ later) = (engine.run earlier).run later :=
  List.foldl_append

/-- Every cycle of a run starts from an engine with a property. -/
def EachCycle (holds : Engine → Prop) (engine : Engine) : List Action → Prop
  | [] => True
  | action :: rest =>
    (action.isCycle = true → holds engine) ∧ EachCycle holds (engine.act action) rest

instance decidableEachCycle (holds : Engine → Prop) [DecidablePred holds] :
    (engine : Engine) → (actions : List Action) → Decidable (EachCycle holds engine actions)
  | _, [] => inferInstanceAs (Decidable True)
  | engine, action :: rest =>
    have := decidableEachCycle holds (engine.act action) rest
    inferInstanceAs (Decidable ((action.isCycle = true → holds engine) ∧
      EachCycle holds (engine.act action) rest))

theorem eachCycle_append {holds : Engine → Prop} {engine : Engine} {earlier later : List Action} :
    EachCycle holds engine (earlier ++ later) ↔
      EachCycle holds engine earlier ∧ EachCycle holds (engine.run earlier) later := by
  induction earlier generalizing engine with
  | nil =>
    rw [List.nil_append, EachCycle, true_and]
    rfl
  | cons action rest inductionHypothesis =>
    rw [List.cons_append, EachCycle, EachCycle, inductionHypothesis, and_assoc]
    rfl

/-- An engine that is running after an action was running before it, and the action had its
effect. -/
theorem effect_of_act {engine : Engine} {action : Action} {reached : State}
    (live : (engine.act action).live = .running reached) :
    ∃ state, engine.live = .running state ∧ action.Effect engine.box state reached := by
  rcases engine with ⟨config, box, network, before⟩
  cases before with
  | lost => cases action <;> cases live
  | running state =>
    refine ⟨state, rfl, ?_⟩
    cases action with
    | mutate mutation =>
      simp only [act, mutate] at live
      cases done : state.mutate mutation with
      | error missing =>
        rw [done] at live
        cases live
        exact .refused done
      | ok changed =>
        rw [done] at live
        cases live
        exact .mutated done
    | advance span =>
      simp only [act, advance] at live
      cases moved : state.now.advance? span with
      | none =>
        rw [moved] at live
        cases live
      | some now =>
        rw [moved] at live
        cases live
        exact .moved span state now
    | cycle =>
      cases live
      exact .swept state

/-- What the effect of an action keeps, the action keeps. -/
theorem act_preserves {engine : Engine} {property : State → Prop} {action : Action}
    (kept : ∀ state reached, action.Effect engine.box state reached →
      property state → property reached)
    (initial : engine.live.Satisfies property) :
    (engine.act action).live.Satisfies property := by
  cases after : (engine.act action).live with
  | lost => exact True.intro
  | running reached =>
    rcases effect_of_act after with ⟨state, before, effect⟩
    rw [before] at initial
    exact kept state reached effect initial

/-- What the actions of a class keep, holds along every run of such actions from a state in
which it holds. -/
theorem run_preserves_of {engine : Engine} (property : State → Prop) {allowed : Action → Prop}
    (kept : ∀ action state reached, allowed action → action.Effect engine.box state reached →
      property state → property reached)
    {actions : List Action} (permitted : ∀ action, action ∈ actions → allowed action)
    (initial : engine.live.Satisfies property) :
    (engine.run actions).live.Satisfies property := by
  induction actions generalizing engine with
  | nil => exact initial
  | cons action rest inductionHypothesis =>
    have next : (engine.act action).live.Satisfies property := by
      refine act_preserves (fun state reached effect => ?_) initial
      exact kept action state reached (permitted action List.mem_cons_self) effect
    refine @inductionHypothesis (engine.act action) ?_ ?_ next
    · rw [act_box]
      exact kept
    · intro other member
      exact permitted other (List.mem_cons_of_mem action member)

/-- What mutations, the clock and the stages keep, holds along every run from a state in
which it holds. -/
theorem run_preserves {engine : Engine} (property : State → Prop)
    (mutated : ∀ state mutation changed, state.mutate mutation = .ok changed →
      property state → property changed)
    (moved : ∀ (state : State) now, property state → property { state with now })
    (staged : ∀ stage state reached,
      Stage.Effect stage engine.box engine.box.plant.routeIds state reached →
        property state → property reached)
    (actions : List Action) (initial : engine.live.Satisfies property) :
    (engine.run actions).live.Satisfies property := by
  refine @run_preserves_of engine property (fun _ => True) ?_ actions (fun _ _ => True.intro) initial
  intro action state reached _ effect before
  cases effect with
  | refused failed => exact before
  | mutated done => exact mutated _ _ _ done before
  | moved span _ now => exact moved _ now before
  | swept => exact Interlocking.sweep_preserves staged before

/-- Every state of a run has entries for the same things as the first one. -/
theorem run_sameKeys {engine : Engine} {start : State} (running : engine.live = .running start)
    (actions : List Action) {state : State}
    (reached : (engine.run actions).live = .running state) : State.SameKeys state start := by
  have kept : (engine.run actions).live.Satisfies fun state => State.SameKeys state start := by
    apply run_preserves
    · intro state mutation changed done same
      exact (State.sameKeys_mutate done).trans same
    · intro state now same
      exact { same with }
    · intro stage state next effect same
      exact effect.sameKeys.trans same
    · rw [running]
      exact State.SameKeys.refl start
  rw [reached] at kept
  exact kept

end Engine

namespace State

/-- Clients set inputs beside the relays of a route, but none of the relays that a cycle
writes. -/
theorem isRaised_mutate {state changed : State} {mutation : Mutation}
    (mutated : state.mutate mutation = .ok changed) (relay : Relay) (id : ObjectId) :
    changed.isRaised relay id = state.isRaised relay id := by
  rcases Mutation.mutate_eq_ok.1 mutated with ⟨_, rfl⟩
  exact isRaised_of_sameAt (Mutation.sameAt_apply (mutation.relay_not_mem_places id relay))

/-- At first no relay is raised. -/
theorem isRaised_initial (plant : Database) (now : Timestamp) (relay : Relay) (id : ObjectId) :
    (initial plant now).isRaised relay id = false := by
  unfold isRaised initial
  rw [get?_uniform]
  by_cases defined : id ∈ plant.routeIds
  · rw [if_pos defined]
    cases relay <;> rfl
  · rw [if_neg defined]
    rfl

end State

/-! ## A small plant -/

/-- Two routes over the same points, of which the first locks the second one out. -/
def PlantData.crossing : PlantData where
  objects := [⟨1, "TH71_1", .lever, "TH71"⟩, ⟨2, "TH71_2", .lever, "TH71"⟩,
    ⟨10, "TH71_1R", .route, "TH71"⟩, ⟨11, "TH71_2L", .route, "TH71"⟩,
    ⟨20, "TH71_W51", .switchingMachine, "TH71"⟩, ⟨30, "TH71_3T", .trackCircuit, "TH71"⟩]
  routes := [{ id := 10, lever := some 1 }, { id := 11, lever := some 2 }]
  lockTable := [⟨"TH71", "TH71_1R", .switchingMachine, "51"⟩,
    ⟨"TH71", "TH71_1R", .directLock, "2L"⟩, ⟨"TH71", "TH71_1R", .signalControl, "3T"⟩]
  signals := [{ name := "1R", typeName := "three", track := some 30, routes := [10] }]
  signalTypes := [⟨"three", .y, .yg, .g, .g, .g⟩]

end SignalBox
