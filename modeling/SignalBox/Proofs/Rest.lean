import SignalBox.Proofs.LeverFindings
import SignalBox.Proofs.Proceeding
import SignalBox.Proofs.Runs

namespace SignalBox

/-!
# Boxes at rest

As long as nobody asks for a route, none is set.  Asking means moving a lever off its
centre or requesting a route by central control.  Taking the release of a route away is
excluded too: without it a route that controls others can raise their YS relays.
Everything else may change in any way: buttons, guards, central control itself, tracks,
points, direction routes and the clock.

The relays of the lever stage are made from each other, across routes and through
throw-out controls: X from lever relays of sources, XR from levers or X relays of
controllers, YS from XR and the signal-control relays of controllers, and lever relays from
all of these.  None of them can be shown to stay dropped alone.  `AtRest` says it of all
six relays of all routes together, and each stage keeps it.
-/

/-- An action by which nobody asks for a route. -/
def Action.IsRestful : Action → Prop
  | mutate (.lever _ position) => position = .center
  | mutate (.ctc _ raised) => raised = false
  | mutate (.routeLock _ raised) => raised = true
  | _ => True

namespace State

/-- All levers are centred, and every route has the relays that it starts with: the six
that a cycle writes are dropped, nothing is requested by central control and the route is
released. -/
structure AtRest (state : State) : Prop where
  lever : ∀ id position, state.lever id = .ok position → position = .center
  route : ∀ id relays, state.route id = .ok relays → relays = {}

namespace AtRest

variable {state : State}

theorem initial (plant : Database) (now : Time.Timestamp) : (State.initial plant now).AtRest where
  lever _ _ entered := eq_of_entry_uniform entered
  route _ _ entered := eq_of_entry_uniform entered

theorem isRaised_eq_false (rest : state.AtRest) (relay : Relay) (id : ObjectId) :
    state.isRaised relay id = false := by
  apply Bool.eq_false_iff.2
  intro raised
  rcases exists_of_isRaised raised with ⟨relays, entered, value⟩
  rw [rest.route id relays entered] at value
  cases relay <;> cases value

/-- A table whose values are all the same still has only this value after a change that
writes it again. -/
private theorem eq_of_modify {α : Type} {table : Table ObjectId α} {key id : ObjectId}
    {absent : ObjectId → Missing} {update : α → α} {value found : α}
    (same : ∀ id found, entry table id (absent id) = .ok found → found = value)
    (kept : update value = value)
    (entered : entry (table.modify key update) id (absent id) = .ok found) : found = value := by
  rw [entry_eq_ok, Table.get?_modify, Option.map_eq_some_iff] at entered
  rcases entered with ⟨before, held, result⟩
  rw [same id before (entry_eq_ok.2 held)] at result
  rw [← result]
  split
  · exact kept
  · rfl

theorem mutate (rest : state.AtRest) {mutation : Mutation} {changed : State}
    (restful : (Action.mutate mutation).IsRestful)
    (mutated : state.mutate mutation = .ok changed) : changed.AtRest := by
  rcases Mutation.mutate_eq_ok.1 mutated with ⟨_, rfl⟩
  cases mutation with
  | lever id position =>
    exact { rest with lever := fun id found => eq_of_modify rest.lever restful }
  | routeLock id raised =>
    have kept : { ({} : RouteRelays) with routeLock := raised } = {} := by rw [restful]
    exact { rest with route := fun id found => eq_of_modify rest.route kept }
  | ctc id raised =>
    have kept : { ({} : RouteRelays) with ctc := raised } = {} := by rw [restful]
    exact { rest with route := fun id found => eq_of_modify rest.route kept }
  | _ => exact { rest with }

end AtRest

end State

namespace Interlocking

variable {box : Interlocking} {state : State} {route : ObjectId} (rest : state.AtRest)
include rest

/-! ## What the lever stage finds at rest -/

/-- No route is requested. -/
theorem isRequested_atRest {requested : Bool} (found : box.isRequested state route = .ok requested) :
    requested = false := by
  rcases Fallible.bind_eq_ok.1 found with ⟨definition, _, asked⟩
  cases lever : definition.lever with
  | some own =>
    rw [lever] at asked
    rcases Fallible.bind_eq_ok.1 asked with ⟨position, entered, same⟩
    rw [rest.lever own position entered] at same
    exact (Except.ok.inj same).symm
  | none =>
    rw [lever] at asked
    rcases Fallible.bind_eq_ok.1 asked with ⟨relays, entered, same⟩
    rw [rest.route route relays entered] at same
    exact (Except.ok.inj same).symm

/-- No source has its lever relay raised, so no X relay rises. -/
theorem throwOutX_atRest {current : RouteRelays} {unlocked x : Bool}
    (found : box.throwOutX state route current unlocked = .ok x) : x = false := by
  rw [← Bool.not_eq_true, throwOutX_iff found]
  rintro ⟨_, ⟨source, _, set⟩, _⟩
  rcases State.exists_of_isRaised set with ⟨relays, entered, raised⟩
  rw [rest.route source relays entered] at raised
  cases raised

/-- No controller is requested, so no XR relay rises. -/
theorem throwOutXr_atRest {current : RouteRelays} {controllers : List ObjectId}
    {unlocked requested xr : Bool}
    (found : box.throwOutXr state current controllers unlocked requested = .ok xr) :
    xr = false := by
  rw [← Bool.not_eq_true, throwOutXr_iff found]
  rintro ⟨_, ⟨controller, _, asked⟩, _⟩
  cases isRequested_atRest rest asked

/-- A controller that is released is not idle in the sense of the YS relay, so without XR
no YS relay rises. -/
theorem throwOutYs_atRest {current : RouteRelays} {controllers : List ObjectId} {ys : Bool}
    (controlled : controllers ≠ [])
    (found : box.throwOutYs state route current controllers false = .ok ys) : ys = false := by
  rcases Fallible.bind_eq_ok.1 found with ⟨released, _, afterReleased⟩
  rcases Fallible.bind_eq_ok.1 afterReleased with ⟨idle, traversed, afterIdle⟩
  rcases Fallible.bind_eq_ok.1 afterIdle with ⟨approach, _, afterApproach⟩
  have engaged : idle.all id = false := by
    rcases List.exists_mem_of_ne_nil controllers controlled with ⟨controller, member⟩
    rcases Fallible.mem_of_mapM traversed member with ⟨value, listed, own⟩
    rcases Fallible.map_eq_ok.1 own with ⟨relays, entered, lock⟩
    rw [rest.route controller relays entered] at lock
    rw [List.all_eq_false]
    refine ⟨value, listed, ?_⟩
    rw [← lock]
    exact Bool.false_ne_true
  simp only [engaged, Bool.or_false, Bool.and_false, Bool.false_and] at afterApproach
  split at afterApproach
  · rcases Fallible.bind_eq_ok.1 afterApproach with ⟨_, _, same⟩
    exact (Except.ok.inj same).symm
  · exact (Except.ok.inj afterApproach).symm

theorem throwOutRelays_atRest {current : RouteRelays} {controllers : List ObjectId}
    {unlocked requested : Bool} {held : Bool × Bool}
    (found : box.throwOutRelays state route current controllers unlocked requested = .ok held) :
    held = (false, false) := by
  unfold throwOutRelays at found
  by_cases empty : controllers.isEmpty = true
  · rw [if_pos empty] at found
    exact (Except.ok.inj found).symm
  · rw [if_neg empty] at found
    rcases Fallible.bind_eq_ok.1 found with ⟨xr, taken, afterTaken⟩
    rcases Fallible.bind_eq_ok.1 afterTaken with ⟨ys, kept, same⟩
    have low := throwOutXr_atRest rest taken
    subst low
    have controlled : controllers ≠ [] := fun none => empty (List.isEmpty_iff.2 none)
    rw [throwOutYs_atRest rest controlled kept] at same
    exact (Except.ok.inj same).symm

theorem request_atRest {definition : RouteDefinition} {current : RouteRelays} {unlocked : Bool}
    {asked : Bool × Bool}
    (found : box.request state route definition current unlocked = .ok asked) :
    asked = (false, false) := by
  unfold request at found
  cases lever : definition.lever with
  | some own =>
    rw [lever] at found
    rcases Fallible.bind_eq_ok.1 found with ⟨position, entered, same⟩
    rw [rest.lever own position entered] at same
    exact (Except.ok.inj same).symm
  | none =>
    rw [lever] at found
    rcases Fallible.bind_eq_ok.1 found with ⟨x, given, same⟩
    rw [throwOutX_atRest rest given] at same
    exact (Except.ok.inj same).symm

/-- The lever stage finds all its relays dropped, under station control and under central
control alike. -/
theorem leverRelays_atRest {current : RouteRelays} (entered : state.route route = .ok current)
    {found : LeverRelays} (given : box.leverRelays state route current = .ok found) :
    found = ⟨false, false, false, false⟩ := by
  rcases Fallible.bind_eq_ok.1 given with ⟨definition, looked, _⟩
  cases (leverRelays_eq_ok_iff (Database.definition_eq_ok.1 looked)).1 given with
  | central => rw [rest.route route current entered, Bool.and_false]
  | station _ _ request _ _ throwOut =>
    cases request_atRest rest request
    cases throwOutRelays_atRest rest throwOut
    simp

end Interlocking

namespace Stage.Effect

variable {stage : Stage} {box : Interlocking} {state reached : State}

/-- Every stage gives a route at rest the relays that it has. -/
theorem next_atRest (rest : state.AtRest) {id : ObjectId} {current relays : RouteRelays}
    (entered : state.route id = .ok current)
    (given : stage.next box state id current = .ok relays) : relays = {} := by
  have start := rest.route id current entered
  cases stage with
  | lever =>
    rcases next_lever_eq_ok.1 given with ⟨found, computed, rfl⟩
    rw [Interlocking.leverRelays_atRest rest entered computed, start]
  | route =>
    rcases next_route_eq_ok.1 given with ⟨unlocked, ready, locked, _, _, _, rfl⟩
    rw [start]
    rfl
  | signalControl =>
    rcases next_signalControl_eq_ok.1 given with ⟨clear, locked, _, _, rfl⟩
    rw [start]
    rfl

theorem atRest {routes : List ObjectId} (effect : Effect stage box routes state reached)
    (rest : state.AtRest) : reached.AtRest where
  lever id position entered := by
    rw [effect.rest] at entered
    exact rest.lever id position entered
  route id relays entered := by
    by_cases visited : id ∈ routes
    · rcases effect.written id visited with ⟨current, next, before, given, after⟩
      rw [after] at entered
      cases entered
      exact next_atRest rest before given
    · have kept := effect.others id visited
      rw [State.route, State.entry_eq_ok, kept] at entered
      exact rest.route id relays (State.entry_eq_ok.2 entered)

end Stage.Effect

namespace SignalNetwork

/-- At rest every signal with routes shows stop. -/
theorem stop_of_atRest {network : SignalNetwork} {state : State} (rest : state.AtRest)
    {steps : Nat} {name : String} {signal : Signal} {aspect : Aspect}
    (defined : network.signal? name = some signal) (absolute : signal.definition.routes ≠ [])
    (answered : network.plain state steps name = .ok aspect) : aspect = .r := by
  by_cases stop : aspect = .r
  · exact stop
  rcases proceedable_of_plain answered stop with ⟨other, same, proceedable⟩
  rw [defined] at same
  cases same
  have cleared := (Signal.isProceedable_eq_true.1 proceedable).2.1
  rcases Signal.raised_of_isRouteCleared cleared absolute with ⟨id, _, raised⟩
  rw [rest.isRaised_eq_false] at raised
  cases raised

end SignalNetwork

namespace Engine

variable {engine : Engine} {data : PlantData} {config : EngineConfig} {now : Time.Timestamp}

/-- An engine that has been loaded stays at rest as long as nobody asks for a route. -/
theorem run_atRest (loaded : (load data config now).2 = .ok engine) {actions : List Action}
    (restful : ∀ action, action ∈ actions → action.IsRestful) :
    (engine.run actions).live.Satisfies State.AtRest := by
  rcases load_eq_ok loaded with ⟨plant, locks, network, _, _, _, _, rfl⟩
  refine run_preserves_of State.AtRest ?_ restful (State.AtRest.initial plant now)
  intro action state reached allowed effect rest
  cases effect with
  | refused failed => exact rest
  | mutated done => exact rest.mutate allowed done
  | moved => exact { rest with }
  | swept => exact Interlocking.sweep_preserves (fun _ _ _ effect => effect.atRest) rest

/-- As long as nobody asks for a route of an engine that has been loaded, all relays of all
routes are dropped in every state, and every query that succeeds shows stop at every
signal with routes. -/
theorem nothing_is_set_unasked (loaded : (load data config now).2 = .ok engine)
    {actions : List Action} (restful : ∀ action, action ∈ actions → action.IsRestful)
    {state : State} (reached : (engine.run actions).live = .running state) :
    (∀ relay id, state.isRaised relay id = false) ∧
      ∀ names answers, (engine.run actions).aspects names = .ok answers →
        ∀ name, name ∈ names → ∀ signal, engine.network.signal? name = some signal →
          signal.definition.routes ≠ [] → answers.get? name = some .r := by
  have rest := run_atRest loaded restful
  rw [reached] at rest
  refine ⟨rest.isRaised_eq_false, ?_⟩
  intro names answers answered name asked signal defined absolute
  rcases aspects_eq_ok.1 answered with ⟨same, live, found⟩
  rw [reached] at live
  cases live
  rcases SignalNetwork.aspects_succeeds.1 ⟨answers, found⟩ name asked with ⟨aspect, known⟩
  rw [← run_network engine actions] at defined
  rw [SignalNetwork.stop_of_atRest rest defined absolute known] at known
  exact (SignalNetwork.get?_of_aspects found).2 ⟨asked, known⟩

/-- The first route of the small plant also controls the second one.  Its track circuit is
occupied and cleared, and the second route's lever is put to the centre where it is. -/
theorem crossing_stays_unset :
    ∃ engine state answers, (load { PlantData.crossing with
        throwOuts := [{ source := 10, target := 11 }] } {} default).2 = .ok engine ∧
      (engine.run [.mutate (.track 30 true), .cycle, .mutate (.lever 2 .center),
        .mutate (.track 30 false), .cycle]).live = .running state ∧
      (engine.run [.mutate (.track 30 true), .cycle, .mutate (.lever 2 .center),
        .mutate (.track 30 false), .cycle]).aspects ["1R"] = .ok answers ∧
      state.isRaised .throwOutYs 11 = false ∧ answers.get? "1R" = some .r := by
  have checked : (load { PlantData.crossing with
        throwOuts := [{ source := 10, target := 11 }] } {} default).2.toOption.any (fun engine =>
      ((engine.network.signal? "1R").any fun signal => !signal.definition.routes.isEmpty) &&
      (engine.run [.mutate (.track 30 true), .cycle, .mutate (.lever 2 .center),
        .mutate (.track 30 false), .cycle]).live.state?.isSome &&
      ((engine.run [.mutate (.track 30 true), .cycle, .mutate (.lever 2 .center),
        .mutate (.track 30 false), .cycle]).aspects ["1R"]).isOk) = true := by
    decide +kernel
  rcases Fallible.exists_of_any checked with ⟨engine, loaded, found⟩
  rw [Bool.and_eq_true, Bool.and_eq_true, Option.any_eq_true, Option.isSome_iff_exists,
    Fallible.isOk_iff] at found
  rcases found with ⟨⟨⟨signal, defined, routes⟩, state, live⟩, answers, answered⟩
  have reached := Live.state?_eq_some.1 live
  have absolute : signal.definition.routes ≠ [] := by
    intro none
    rw [none] at routes
    cases routes
  have unset := nothing_is_set_unasked loaded (by simp [Action.IsRestful]) reached
  exact ⟨engine, state, answers, loaded, reached, answered, unset.1 .throwOutYs 11,
    unset.2 ["1R"] answers answered "1R" List.mem_cons_self signal defined absolute⟩

end Engine

end SignalBox
