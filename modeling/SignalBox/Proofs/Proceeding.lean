import SignalBox.Proofs.Answers
import SignalBox.Proofs.Backing
import SignalBox.Proofs.Runs

namespace SignalBox

/-!
# What a proceed aspect rests on

A signal that shows anything but stop may be passed as far as its own protection goes.
Directly behind a successful cycle this says more than what the signal looks at: the
signal-control relay that it sees raised is backed by the relays below it and by the live
state.  The signals ahead do not come into it, and neither do the tables of the signals,
which may well show a proceed aspect for stop ahead.
-/

namespace Signal

variable {signal : SignalDefinition} {state : State}

/-- A signal may be passed where its three protections allow it. -/
theorem isProceedable_eq_true :
    isProceedable signal state = .ok true ↔
      isTrackClear signal state = .ok true ∧ isRouteCleared signal state = .ok true ∧
        isDirectionSet signal state = .ok true := by
  unfold isProceedable
  rw [Fallible.bind_eq_ok]
  constructor
  · rintro ⟨track, clear, rest⟩
    cases track with
    | false => cases rest
    | true =>
      rcases Fallible.bind_eq_ok.1 rest with ⟨route, cleared, last⟩
      cases route with
      | false => cases last
      | true => exact ⟨clear, cleared, last⟩
  · rintro ⟨clear, cleared, set⟩
    exact ⟨true, clear, Fallible.bind_eq_ok.2 ⟨true, cleared, set⟩⟩

theorem clear_of_isTrackClear (clear : isTrackClear signal state = .ok true) {id : ObjectId}
    (guards : signal.track = some id) :
    ∃ track, state.track id = .ok track ∧ track.occupied = false := by
  unfold isTrackClear at clear
  rw [guards] at clear
  rcases Fallible.map_eq_ok.1 clear with ⟨track, entry, free⟩
  exact ⟨track, entry, Bool.not_eq_eq_eq_not.1 free⟩

theorem raised_of_isRouteCleared (cleared : isRouteCleared signal state = .ok true)
    (absolute : signal.routes ≠ []) :
    ∃ id, id ∈ signal.routes ∧ state.isRaised .signalControl id = true := by
  have protects : signal.isAbsolute = true := by
    unfold SignalDefinition.isAbsolute
    cases routes : signal.routes with
    | nil => exact absurd routes absolute
    | cons first rest => rfl
  unfold isRouteCleared at cleared
  rw [if_pos protects] at cleared
  rcases Fallible.bind_eq_ok.1 cleared with ⟨values, traversed, some⟩
  exact (@State.any_isRaised_iff state .signalControl signal.routes values traversed).1
    (Except.ok.inj some)

theorem side_of_areOnSide {side : Side} {routes : List ObjectId}
    (placed : areOnSide state side routes = .ok true) {id : ObjectId} (member : id ∈ routes) :
    state.directionRoute id = .ok side := by
  induction routes with
  | nil => cases member
  | cons first rest inductionHypothesis =>
    rcases Fallible.bind_eq_ok.1 placed with ⟨current, entry, later⟩
    by_cases same : current = side
    · rw [if_pos same] at later
      rcases List.mem_cons.1 member with here | behind
      · rw [here, entry, same]
      · exact inductionHypothesis later behind
    · rw [if_neg same] at later
      cases later

theorem placed_of_isDirectionSet (set : isDirectionSet signal state = .ok true) {side : Side}
    (direction : signal.direction = some side) {id : ObjectId}
    (member : id ∈ signal.directionRoutes) : state.directionRoute id = .ok side := by
  unfold isDirectionSet at set
  rw [direction] at set
  exact side_of_areOnSide set member

end Signal

namespace Interlocking

/-- A route over which a signal may show a proceed aspect: its three relays are raised, and
in the same state nothing locks it and its way is clear. -/
structure RouteSet (box : Interlocking) (state : State) (id : ObjectId) : Prop where
  lever : state.isRaised .lever id = true
  route : state.isRaised .route id = true
  signalControl : state.isRaised .signalControl id = true
  free : box.isLocked? state (box.locks.clause? id .directLock) = .ok false
  clear : Clause.check (box.isSignalClear state) (box.locks.clause? id .signalControl) = .ok true

/-- A signal whose protections all allow it to be passed. -/
structure SignalBacked (box : Interlocking) (state : State) (signal : SignalDefinition) :
    Prop where
  clear : ∀ id, signal.track = some id →
    ∃ track, state.track id = .ok track ∧ track.occupied = false
  placed : ∀ side, signal.direction = some side →
    ∀ id, id ∈ signal.directionRoutes → state.directionRoute id = .ok side
  set : signal.routes ≠ [] → ∃ id, id ∈ signal.routes ∧ box.RouteSet state id

variable {box : Interlocking} {state final : State} {report : SweepReport}

theorem routeSet_of_sweep (swept : box.sweep state = (final, .ok report)) {id : ObjectId}
    (defined : id ∈ box.plant.routeIds) (raised : final.isRaised .signalControl id = true) :
    box.RouteSet final id := by
  rcases clear_of_signalControl_raised swept defined raised with ⟨route, clear⟩
  rcases backed_of_route_raised swept defined route with ⟨lever, backed⟩
  exact ⟨lever, route, raised, backed.free, clear⟩

/-- A signal that may be passed after a cycle is backed, if only defined routes have
relays. -/
theorem signalBacked_of_sweep (swept : box.sweep state = (final, .ok report))
    (known : ∀ id, id ∈ final.routes.keys → id ∈ box.plant.routeIds) {signal : SignalDefinition}
    (proceedable : Signal.isProceedable signal final = .ok true) :
    box.SignalBacked final signal := by
  rcases Signal.isProceedable_eq_true.1 proceedable with ⟨track, cleared, direction⟩
  constructor
  · intro id guards
    exact Signal.clear_of_isTrackClear track guards
  · intro side asked id member
    exact Signal.placed_of_isDirectionSet direction asked member
  · intro absolute
    rcases Signal.raised_of_isRouteCleared cleared absolute with ⟨id, member, raised⟩
    rcases State.exists_of_isRaised raised with ⟨relays, entry, _⟩
    have defined := known id (State.entry_succeeds.1 ⟨relays, entry⟩)
    exact ⟨id, member, routeSet_of_sweep swept defined raised⟩

end Interlocking

namespace Engine

variable {engine : Engine} {names : List String} {answers : Table String Aspect}

/-- The plain answers of the network stand behind every query. -/
theorem plain_of_aspects
    (answered : engine.aspects names = .ok answers ∨ engine.aspectsWithNext names = .ok answers)
    {name : String} {aspect : Aspect} (shown : answers.get? name = some aspect) :
    ∃ state, engine.live = .running state ∧
      engine.network.plain state engine.network.graph.maxDepth name = .ok aspect := by
  have queried : ∃ asked, engine.aspects asked = .ok answers := by
    rcases answered with named | ahead
    · exact ⟨names, named⟩
    · rw [aspectsWithNext_eq] at ahead
      exact ⟨_, ahead⟩
  rcases queried with ⟨asked, queried⟩
  rcases aspects_eq_ok.1 queried with ⟨state, live, found⟩
  exact ⟨state, live, ((SignalNetwork.get?_of_aspects found).1 shown).2⟩

/-- Whatever clients did to an engine that has been loaded, once a cycle has succeeded, a
name for which a query answers a proceed aspect is that of a signal that the state being
queried backs. -/
theorem proceed_aspects_are_backed {data : PlantData} {config : EngineConfig}
    {now : Time.Timestamp} (loaded : (load data config now).2 = .ok engine)
    (actions : List Action) {reached : Engine} {report : SweepReport}
    (cycled : (engine.run actions).cycle = (reached, .ok report))
    (answered : reached.aspects names = .ok answers ∨ reached.aspectsWithNext names = .ok answers)
    {name : String} {aspect : Aspect} (shown : answers.get? name = some aspect)
    (proceeds : aspect ≠ .r) :
    ∃ state signal, reached.live = .running state ∧ reached.network.signal? name = some signal ∧
      reached.box.SignalBacked state signal.definition := by
  rcases load_eq_ok loaded with ⟨plant, locks, network, _, _, _, _, same⟩
  rcases cycle_eq_ok cycled with ⟨before, final, running, swept, rfl⟩
  rcases plain_of_aspects answered shown with ⟨state, live, known⟩
  cases live
  rcases SignalNetwork.proceedable_of_plain known proceeds with ⟨signal, defined, proceedable⟩
  have start : engine.live = .running (State.initial engine.box.plant now) := by rw [same]
  have keysBefore : State.SameKeys before (State.initial engine.box.plant now) :=
    run_sameKeys start actions running
  have keysAfter : State.SameKeys final before := by
    have kept := @Interlocking.sweep_sameKeys (engine.run actions).box before
    rw [swept] at kept
    exact kept
  refine ⟨final, signal, rfl, defined, ?_⟩
  apply Interlocking.signalBacked_of_sweep swept _ proceedable
  intro id listed
  rw [(keysAfter.trans keysBefore).routes, State.mem_routes_initial] at listed
  rw [run_box]
  exact listed

/-- The signal of the first route shows caution once its lever has been thrown. -/
theorem crossing_proceed_aspect_is_backed :
    ∃ engine reached report answers state signal, (load .crossing {} default).2 = .ok engine ∧
      (engine.run [.mutate (.lever 1 .right)]).cycle = (reached, .ok report) ∧
      reached.aspects ["1R"] = .ok answers ∧ answers.get? "1R" = some .y ∧
      reached.live = .running state ∧ reached.network.signal? "1R" = some signal ∧
      reached.box.SignalBacked state signal.definition := by
  have checked : (load .crossing {} default).2.toOption.any (fun engine =>
      (engine.run [.mutate (.lever 1 .right)]).cycle.2.isOk &&
        ((engine.run [.mutate (.lever 1 .right)]).cycle.1.aspects ["1R"]).toOption.any
          fun answers => answers.get? "1R" == some .y) = true := by
    decide +kernel
  rcases Fallible.exists_of_any checked with ⟨engine, loaded, found⟩
  rw [Bool.and_eq_true] at found
  rcases Fallible.isOk_iff.1 found.1 with ⟨report, succeeded⟩
  rcases Fallible.exists_of_any found.2 with ⟨answers, answered, caution⟩
  have cycled : (engine.run [.mutate (.lever 1 .right)]).cycle =
      ((engine.run [.mutate (.lever 1 .right)]).cycle.1, .ok report) :=
    Prod.ext rfl succeeded
  have shown := beq_iff_eq.1 caution
  rcases proceed_aspects_are_backed loaded _ cycled (.inl answered) shown (by decide) with
    ⟨state, signal, live, defined, backed⟩
  exact ⟨engine, _, report, answers, state, signal, loaded, cycled, answered, shown, live, defined,
    backed⟩

end Engine

end SignalBox
