import SignalBox.Proofs.Writing

namespace SignalBox

/-!
# The effect of stages and cycles

A stage gives every defined route new relays.  `Stage.next` says which, for one route and
in the state before the stage; the changes that the stage finds are the differences to
these.  As every route that changes has an entry, a stage either fails and leaves the
state alone, or writes the new relays of all routes and nothing else.  This is the
`Effect` of a stage.

Stages that succeed one after another are a `Run`.  A cycle is a run of all three stages, or
a run of those before the first that fails.
-/

/-- The stage that writes a relay. -/
def Relay.stage : Relay → Stage
  | lever => .lever
  | route => .route
  | signalControl => .signalControl
  | throwOutX => .lever
  | throwOutXr => .lever
  | throwOutYs => .lever

namespace Stage

/-- The relays that a stage gives to a route. -/
def next (stage : Stage) (box : Interlocking) (state : State) (route : ObjectId)
    (current : RouteRelays) : Except Missing RouteRelays :=
  match stage with
  | .lever => (box.leverRelays state route current).map fun found =>
    { current with
      throwOutX := found.x, throwOutXr := found.xr, throwOutYs := found.ys, lever := found.lever }
  | .route => do
    let unlocked ← Clause.check (box.isUnlocked state) (box.locks.clause? route .directLock)
    let ready ← Clause.check (box.isRouteReady state) (box.locks.clause? route .signalControl)
    let locked ← box.isLocked? state (box.locks.clause? route .directLock)
    pure { current with route := current.lever && unlocked && ready && !locked }
  | .signalControl => do
    let clear ← Clause.check (box.isSignalClear state) (box.locks.clause? route .signalControl)
    let locked ← box.isLocked? state (box.locks.clause? route .directLock)
    pure { current with signalControl := current.route && clear && !locked }

section Next

variable {box : Interlocking} {state : State} {id : ObjectId} {current relays : RouteRelays}

theorem next_lever_eq_ok :
    next .lever box state id current = .ok relays ↔
      ∃ found, box.leverRelays state id current = .ok found ∧
        relays = { current with
          throwOutX := found.x, throwOutXr := found.xr, throwOutYs := found.ys,
          lever := found.lever } := by
  simp only [next, Fallible.map_eq_ok, @eq_comm _ relays]

theorem next_route_eq_ok :
    next .route box state id current = .ok relays ↔
      ∃ unlocked ready locked,
        Clause.check (box.isUnlocked state) (box.locks.clause? id .directLock) = .ok unlocked ∧
        Clause.check (box.isRouteReady state) (box.locks.clause? id .signalControl) = .ok ready ∧
        box.isLocked? state (box.locks.clause? id .directLock) = .ok locked ∧
        relays = { current with route := current.lever && unlocked && ready && !locked } := by
  simp only [next, Fallible.bind_eq_ok]
  constructor
  · rintro ⟨unlocked, first, ready, second, locked, third, same⟩
    exact ⟨unlocked, ready, locked, first, second, third, (Except.ok.inj same).symm⟩
  · rintro ⟨unlocked, ready, locked, first, second, third, same⟩
    exact ⟨unlocked, first, ready, second, locked, third, congrArg Except.ok same.symm⟩

theorem next_signalControl_eq_ok :
    next .signalControl box state id current = .ok relays ↔
      ∃ clear locked,
        Clause.check (box.isSignalClear state) (box.locks.clause? id .signalControl) = .ok clear ∧
        box.isLocked? state (box.locks.clause? id .directLock) = .ok locked ∧
        relays = { current with signalControl := current.route && clear && !locked } := by
  simp only [next, Fallible.bind_eq_ok]
  constructor
  · rintro ⟨clear, first, locked, second, same⟩
    exact ⟨clear, locked, first, second, (Except.ok.inj same).symm⟩
  · rintro ⟨clear, locked, first, second, same⟩
    exact ⟨clear, first, locked, second, congrArg Except.ok same.symm⟩

/-- A stage keeps the relays of the other stages and the inputs beside the relays. -/
theorem next_keeps {stage : Stage} (found : stage.next box state id current = .ok relays) :
    (∀ relay : Relay, relay.stage ≠ stage → relay.get relays = relay.get current) ∧
      relays.ctc = current.ctc ∧ relays.routeLock = current.routeLock := by
  cases stage with
  | lever =>
    rcases next_lever_eq_ok.1 found with ⟨_, _, rfl⟩
    refine ⟨fun relay other => ?_, rfl, rfl⟩
    cases relay <;> simp [Relay.stage, Relay.get] at other ⊢
  | route =>
    rcases next_route_eq_ok.1 found with ⟨_, _, _, _, _, _, rfl⟩
    refine ⟨fun relay other => ?_, rfl, rfl⟩
    cases relay <;> simp [Relay.stage, Relay.get] at other ⊢
  | signalControl =>
    rcases next_signalControl_eq_ok.1 found with ⟨_, _, _, _, rfl⟩
    refine ⟨fun relay other => ?_, rfl, rfl⟩
    cases relay <;> simp [Relay.stage, Relay.get] at other ⊢

/-- What a stage finds for a route are the differences to the relays it gives it.  The
relays that the stage keeps contribute nothing. -/
theorem changesOf_eq (stage : Stage) (box : Interlocking) (state : State) (id : ObjectId) :
    stage.changesOf box state id =
      (state.route id >>= fun current => stage.next box state id current >>= fun relays =>
        pure (RelayChange.differences id current relays)) := by
  cases stage with
  | lever =>
    change box.leverChanges state id = _
    refine bind_congr fun current => ?_
    rw [next]
    cases box.leverRelays state id current with
    | error missing => rfl
    | ok found =>
      refine congrArg Except.ok ?_
      simp [RelayChange.differences_eq, RelayChange.between, Relay.get]
  | route =>
    change box.routeChanges state id = _
    simp only [Interlocking.routeChanges, next, bind_assoc, pure_bind]
    refine bind_congr fun current => bind_congr fun unlocked => bind_congr fun ready =>
      bind_congr fun locked => congrArg Except.ok ?_
    simp [RelayChange.differences_eq, RelayChange.between, Relay.get]
  | signalControl =>
    change box.signalControlChanges state id = _
    simp only [Interlocking.signalControlChanges, next, bind_assoc, pure_bind]
    refine bind_congr fun current => bind_congr fun clear => bind_congr fun locked =>
      congrArg Except.ok ?_
    simp [RelayChange.differences_eq, RelayChange.between, Relay.get]

theorem changesOf_eq_ok {stage : Stage} {changes : List RelayChange} :
    stage.changesOf box state id = .ok changes ↔
      ∃ current relays, state.route id = .ok current ∧
        stage.next box state id current = .ok relays ∧
        changes = RelayChange.differences id current relays := by
  rw [changesOf_eq, Fallible.bind_eq_ok]
  constructor
  · rintro ⟨current, entry, rest⟩
    rcases Fallible.bind_eq_ok.1 rest with ⟨relays, given, same⟩
    exact ⟨current, relays, entry, given, (Except.ok.inj same).symm⟩
  · rintro ⟨current, relays, entry, given, rfl⟩
    exact ⟨current, entry, Fallible.bind_eq_ok.2 ⟨relays, given, rfl⟩⟩

end Next

/-! ## One stage -/

/-- What a stage does to a state: the routes of its list get the relays that it finds for
them in the state before it, and nothing else is written. -/
structure Effect (stage : Stage) (box : Interlocking) (routes : List ObjectId)
    (state reached : State) : Prop where
  rest : reached = { state with routes := reached.routes }
  keys : reached.routes.keys = state.routes.keys
  written : ∀ id, id ∈ routes → ∃ current relays, state.route id = .ok current ∧
    stage.next box state id current = .ok relays ∧ reached.route id = .ok relays
  others : ∀ id, id ∉ routes → reached.routes.get? id = state.routes.get? id

section Perform

variable {stage : Stage} {box : Interlocking} {routes : List ObjectId} {state reached : State}

/-- The changes of a stage are those of its routes. -/
theorem mem_changes {found : List RelayChange}
    (computed : stage.changes box routes state = .ok found) {change : RelayChange} :
    change ∈ found ↔ ∃ id, id ∈ routes ∧ ∃ current relays, state.route id = .ok current ∧
      stage.next box state id current = .ok relays ∧
      change ∈ RelayChange.differences id current relays := by
  rcases Fallible.map_eq_ok.1 computed with ⟨lists, traversed, flattened⟩
  rw [← flattened, List.mem_flatten]
  constructor
  · rintro ⟨list, listed, member⟩
    rcases Fallible.exists_of_mem_mapM traversed listed with ⟨id, visited, own⟩
    rcases changesOf_eq_ok.1 own with ⟨current, relays, entry, given, rfl⟩
    exact ⟨id, visited, current, relays, entry, given, member⟩
  · rintro ⟨id, visited, current, relays, entry, given, member⟩
    rcases Fallible.mem_of_mapM traversed visited with ⟨list, listed, own⟩
    rcases changesOf_eq_ok.1 own with ⟨other, next, same, taken, rfl⟩
    rw [entry] at same
    cases same
    rw [given] at taken
    cases taken
    exact ⟨_, listed, member⟩

/-- Every route that a stage visits has an entry and is given relays. -/
theorem next_of_changes {found : List RelayChange}
    (computed : stage.changes box routes state = .ok found) {id : ObjectId}
    (visited : id ∈ routes) :
    ∃ current relays, state.route id = .ok current ∧
      stage.next box state id current = .ok relays := by
  rcases Fallible.map_eq_ok.1 computed with ⟨lists, traversed, _⟩
  rcases Fallible.mem_of_mapM traversed visited with ⟨list, _, own⟩
  rcases changesOf_eq_ok.1 own with ⟨current, relays, entry, given, _⟩
  exact ⟨current, relays, entry, given⟩

/-- Writing the changes of a stage cannot fail, as each of them is of a route with an entry. -/
theorem commit_changes {found : List RelayChange}
    (computed : stage.changes box routes state = .ok found) :
    state.commit found = (found.foldl State.record state, none) := by
  refine State.commit_eq fun change listed => ?_
  rcases (mem_changes computed).1 listed with ⟨id, _, current, _, entry, _, member⟩
  rw [(RelayChange.mem_differences.1 member).1]
  exact State.entry_succeeds.1 ⟨current, entry⟩

/-- The changes of a stage, once written, are its effect.  None of them disturbs another
route. -/
theorem effect_of_changes {found : List RelayChange}
    (computed : stage.changes box routes state = .ok found) :
    Effect stage box routes state (found.foldl State.record state) where
  rest := State.foldl_record_rest state found
  keys := State.keys_foldl_record state found
  written := by
    intro id visited
    rcases next_of_changes computed visited with ⟨current, relays, entry, given⟩
    refine ⟨current, relays, entry, given, State.entry_eq_ok.2 ?_⟩
    rw [State.get?_foldl_record, State.entry_eq_ok.1 entry, Option.map_some]
    have kept := next_keeps given
    have own : ∀ change, change ∈ found.filter (fun change => change.route == id) →
        change ∈ RelayChange.differences id current relays := by
      intro change member
      rcases List.mem_filter.1 member with ⟨listed, named⟩
      rcases (mem_changes computed).1 listed with ⟨other, _, before, after, first, second, third⟩
      have same : other = id :=
        (RelayChange.mem_differences.1 third).1.symm.trans (beq_iff_eq.1 named)
      subst same
      rw [entry] at first
      cases first
      rw [given] at second
      cases second
      exact third
    refine congrArg some (RelayChange.foldl_write ?_ ?_ kept.2.1.symm kept.2.2.symm)
    · intro change member
      exact (RelayChange.mem_differences.1 (own change member)).2.1
    · intro relay different
      have needed : (⟨id, relay, relay.get relays⟩ : RelayChange) ∈
          RelayChange.differences id current relays :=
        RelayChange.mem_differences.2 ⟨rfl, rfl, different⟩
      have listed := (mem_changes computed).2
        ⟨id, visited, current, relays, entry, given, needed⟩
      exact ⟨_, List.mem_filter.2 ⟨listed, beq_self_eq_true id⟩, rfl⟩
  others := by
    intro id unvisited
    have none : found.filter (fun change => change.route == id) = [] := by
      refine List.filter_eq_nil_iff.2 fun change listed named => ?_
      rcases (mem_changes computed).1 listed with ⟨other, visited, _, _, _, _, third⟩
      have same : other = id :=
        (RelayChange.mem_differences.1 third).1.symm.trans (beq_iff_eq.1 named)
      exact unvisited (same ▸ visited)
    rw [State.get?_foldl_record, none]
    exact Option.map_id'

/-- What a stage finds and writes are its effect. -/
theorem effect_of_commit {found : List RelayChange}
    (computed : stage.changes box routes state = .ok found)
    (written : state.commit found = (reached, none)) : Effect stage box routes state reached := by
  rw [commit_changes computed] at written
  cases written
  exact effect_of_changes computed

/-- A stage that is performed either fails and leaves the state alone, or has its effect. -/
theorem perform_eq (stage : Stage) (box : Interlocking) (routes : List ObjectId) (state : State) :
    stage.perform box routes state = match stage.changes box routes state with
      | .error missing => (state, .error missing)
      | .ok found => (found.foldl State.record state, .ok found) := by
  unfold perform
  cases computed : stage.changes box routes state with
  | error missing => rfl
  | ok found =>
    dsimp only
    rw [commit_changes computed]

theorem effect_of_perform {found : List RelayChange}
    (performed : stage.perform box routes state = (reached, .ok found)) :
    Effect stage box routes state reached := by
  rw [perform_eq] at performed
  cases computed : stage.changes box routes state with
  | error missing =>
    rw [computed] at performed
    cases performed
  | ok found =>
    rw [computed] at performed
    cases performed
    exact effect_of_changes computed

end Perform

namespace Effect

variable {stage : Stage} {box : Interlocking} {routes : List ObjectId} {state reached : State}
  (effect : Effect stage box routes state reached)
include effect

/-- A stage keeps the relays that belong to another one. -/
theorem isRaised_eq (relay : Relay) (other : relay.stage ≠ stage) (id : ObjectId) :
    reached.isRaised relay id = state.isRaised relay id := by
  by_cases visited : id ∈ routes
  · rcases effect.written id visited with ⟨current, relays, entry, given, after⟩
    rw [State.isRaised_of_route after, State.isRaised_of_route entry]
    exact (next_keeps given).1 relay other
  · rw [State.isRaised, State.isRaised, effect.others id visited]

/-- A stage neither adds nor removes entries. -/
theorem sameKeys : State.SameKeys reached state := by
  rw [effect.rest]
  exact { State.SameKeys.refl state with routes := effect.keys }

end Effect

/-! ## Several stages -/

section Several

variable {box : Interlocking} {routes : Stage → List ObjectId} {state reached final : State}
  {stages : List Stage} {changes : List RelayChange}

/-- Several stages from a state to another: each finds its changes and writes all of them
before the next one looks. -/
inductive Runs (box : Interlocking) (routes : Stage → List ObjectId) :
    State → List Stage → List RelayChange → State → Prop
  | done (state : State) : Runs box routes state [] [] state
  | next {state between final : State} {stage : Stage} {later : List Stage}
      {found others : List RelayChange}
      (computed : stage.changes box (routes stage) state = .ok found)
      (written : state.commit found = (between, none))
      (rest : Runs box routes between later others final) :
      Runs box routes state (stage :: later) (found ++ others) final

namespace Runs

/-- What every stage keeps, a run keeps. -/
theorem preserves {property : State → Prop}
    (preserved : ∀ stage state reached, Effect stage box (routes stage) state reached →
      property state → property reached)
    (run : Runs box routes state stages changes final) (initial : property state) :
    property final := by
  induction run with
  | done state => exact initial
  | next computed written _ inductionHypothesis =>
    exact inductionHypothesis
      (preserved _ _ _ (effect_of_commit computed written) initial)

/-- A run writes no relay of a stage that is not in it. -/
theorem isRaised_eq (run : Runs box routes state stages changes final) {relay : Relay}
    (other : relay.stage ∉ stages) (id : ObjectId) :
    final.isRaised relay id = state.isRaised relay id := by
  induction run with
  | done state => rfl
  | next computed written _ inductionHypothesis =>
    rw [List.mem_cons, not_or] at other
    rw [inductionHypothesis other.2]
    exact (effect_of_commit computed written).isRaised_eq relay other.1 id

end Runs

theorem performAll_of_error {stage : Stage} {later : List Stage} {missing : Missing}
    (failed : stage.changes box (routes stage) state = .error missing) :
    performAll box routes state (stage :: later) = (state, .error missing) := by
  rw [performAll, perform, failed]

/-- A stage that finds its changes hands on to the others with all of them written. -/
theorem performAll_of_changes {stage : Stage} {later : List Stage} {found : List RelayChange}
    (computed : stage.changes box (routes stage) state = .ok found) :
    performAll box routes state (stage :: later) =
      ((performAll box routes (found.foldl State.record state) later).1,
        (performAll box routes (found.foldl State.record state) later).2.map
          fun others => found ++ others) := by
  rw [performAll, perform, computed]
  dsimp only
  rw [commit_changes computed]
  dsimp only
  rcases performAll box routes (found.foldl State.record state) later with ⟨final, outcome⟩
  cases outcome <;> rfl

/-- Stages succeed with what they find along a run. -/
theorem performAll_eq_ok :
    performAll box routes state stages = (final, .ok changes) ↔
      Runs box routes state stages changes final := by
  constructor
  · intro performed
    induction stages generalizing state changes with
    | nil =>
      cases performed
      exact .done _
    | cons stage later inductionHypothesis =>
      cases computed : stage.changes box (routes stage) state with
      | error missing =>
        rw [performAll_of_error computed] at performed
        cases performed
      | ok found =>
        rw [performAll_of_changes computed] at performed
        rcases Prod.mk.inj performed with ⟨same, joined⟩
        rcases Fallible.map_eq_ok.1 joined with ⟨others, behind, rfl⟩
        exact .next computed (commit_changes computed)
          (inductionHypothesis (Prod.ext same behind))
  · intro run
    induction run with
    | done state => rfl
    | next computed written _ inductionHypothesis =>
      cases (commit_changes computed).symm.trans written
      rw [performAll_of_changes computed, inductionHypothesis]
      rfl

/-- Stages fail where a run of some of them ends in a state in which the next one fails, and
they leave this state. -/
theorem performAll_eq_error {missing : Missing} :
    performAll box routes state stages = (reached, .error missing) ↔
      ∃ earlier stage later found, stages = earlier ++ stage :: later ∧
        Runs box routes state earlier found reached ∧
        stage.changes box (routes stage) reached = .error missing := by
  constructor
  · intro performed
    induction stages generalizing state with
    | nil => cases performed
    | cons stage later inductionHypothesis =>
      cases computed : stage.changes box (routes stage) state with
      | error other =>
        rw [performAll_of_error computed] at performed
        cases performed
        exact ⟨[], stage, later, [], rfl, .done _, computed⟩
      | ok found =>
        rw [performAll_of_changes computed] at performed
        rcases Prod.mk.inj performed with ⟨same, failed⟩
        have behind : performAll box routes (found.foldl State.record state) later =
            (reached, .error missing) := Prod.ext same (Fallible.map_eq_error.1 failed)
        rcases inductionHypothesis behind with
          ⟨earlier, failing, rest, others, rfl, run, failed⟩
        exact ⟨stage :: earlier, failing, rest, found ++ others, rfl,
          .next computed (commit_changes computed) run, failed⟩
  · rintro ⟨earlier, stage, later, found, rfl, run, failed⟩
    induction run with
    | done state => exact performAll_of_error failed
    | next computed written _ inductionHypothesis =>
      cases (commit_changes computed).symm.trans written
      rw [List.cons_append, performAll_of_changes computed, inductionHypothesis failed]
      rfl

/-- What every stage keeps, a sequence of stages keeps as far as it comes. -/
theorem performAll_preserves {property : State → Prop}
    (preserved : ∀ stage state reached, Effect stage box (routes stage) state reached →
      property state → property reached)
    (initial : property state) (stages : List Stage) :
    property (performAll box routes state stages).1 := by
  rcases performed : performAll box routes state stages with ⟨reached, missing | changes⟩
  · rcases performAll_eq_error.1 performed with ⟨_, _, _, _, _, run, _⟩
    exact run.preserves preserved initial
  · exact (performAll_eq_ok.1 performed).preserves preserved initial

/-- Stages succeed where each of them finds its changes in every state that the stages
before it can leave. -/
theorem performAll_succeeds {property : State → Prop}
    (preserved : ∀ stage state reached, Effect stage box (routes stage) state reached →
      property state → property reached)
    (computed : ∀ (stage : Stage) state, property state →
      Succeeds (stage.changes box (routes stage) state))
    (initial : property state) (stages : List Stage) :
    Succeeds (performAll box routes state stages).2 := by
  rcases performed : performAll box routes state stages with ⟨reached, missing | changes⟩
  · rcases performAll_eq_error.1 performed with ⟨_, stage, _, _, _, run, failed⟩
    rcases computed stage reached (run.preserves preserved initial) with ⟨found, done⟩
    rw [failed] at done
    cases done
  · exact ⟨changes, rfl⟩

end Several

end Stage

namespace Interlocking

variable {box : Interlocking} {state reached final : State}

/-! ## A whole cycle -/

theorem sweep_eq_ok {report : SweepReport} :
    box.sweep state = (final, .ok report) ↔
      Stage.Runs box (fun _ => box.plant.routeIds) state Stage.order report.changes final := by
  rw [← Stage.performAll_eq_ok, sweep]
  rcases Stage.performAll box (fun _ => box.plant.routeIds) state Stage.order with
    ⟨other, outcome⟩
  simp only [Prod.mk.injEq, Fallible.map_eq_ok]
  constructor
  · rintro ⟨same, changes, rfl, rfl⟩
    exact ⟨same, rfl⟩
  · rintro ⟨same, rfl⟩
    exact ⟨same, report.changes, rfl, rfl⟩

theorem sweep_eq_error {missing : Missing} :
    box.sweep state = (reached, .error missing) ↔
      ∃ earlier stage later found, Stage.order = earlier ++ stage :: later ∧
        Stage.Runs box (fun _ => box.plant.routeIds) state earlier found reached ∧
        box.stageChanges reached stage = .error missing := by
  unfold stageChanges
  rw [← Stage.performAll_eq_error, sweep]
  rcases Stage.performAll box (fun _ => box.plant.routeIds) state Stage.order with
    ⟨other, outcome⟩
  simp only [Prod.mk.injEq, Fallible.map_eq_error]

/-- What every stage keeps, a cycle keeps, also where it fails. -/
theorem sweep_preserves {property : State → Prop}
    (preserved : ∀ stage state reached,
      Stage.Effect stage box box.plant.routeIds state reached →
        property state → property reached)
    (initial : property state) : property (box.sweep state).1 :=
  Stage.performAll_preserves preserved initial Stage.order

/-- A cycle neither adds nor removes entries. -/
theorem sweep_sameKeys : State.SameKeys (box.sweep state).1 state :=
  sweep_preserves (fun _ _ _ effect same => effect.sameKeys.trans same)
    (State.SameKeys.refl state)

/-- A cycle that fails has not come as far as writing signal-control relays. -/
theorem signalControl_of_failed {missing : Missing}
    (failed : box.sweep state = (reached, .error missing)) (id : ObjectId) :
    reached.isRaised .signalControl id = state.isRaised .signalControl id := by
  rcases sweep_eq_error.1 failed with ⟨earlier, stage, later, found, order, run, _⟩
  refine run.isRaised_eq (fun performed => ?_) id
  -- Nothing stands behind the signal-control stage, so it is no stage before the failing one.
  have last : Stage.signalControl ∉ Stage.order.dropLast := by decide
  refine last ?_
  rw [order, List.dropLast_append_cons]
  exact List.mem_append_left _ performed

/-- A successful cycle is the effect of each of its three stages in turn. -/
theorem effects_of_sweep {report : SweepReport}
    (swept : box.sweep state = (final, .ok report)) :
    ∃ first second, Stage.Effect .lever box box.plant.routeIds state first ∧
      Stage.Effect .route box box.plant.routeIds first second ∧
      Stage.Effect .signalControl box box.plant.routeIds second final := by
  have run := sweep_eq_ok.1 swept
  generalize report.changes = changes at run
  rcases run with
    _ | ⟨levers, leversWritten, _ | ⟨routes, routesWritten, _ | ⟨signals, signalsWritten, _ | _⟩⟩⟩
  exact ⟨_, _, Stage.effect_of_commit levers leversWritten,
    Stage.effect_of_commit routes routesWritten, Stage.effect_of_commit signals signalsWritten⟩

/-- A cycle succeeds where every stage finds its changes as long as a property holds that
every stage keeps. -/
theorem sweep_succeeds {property : State → Prop}
    (preserved : ∀ stage state reached,
      Stage.Effect stage box box.plant.routeIds state reached →
        property state → property reached)
    (computed : ∀ (stage : Stage) state, property state →
      Succeeds (stage.changes box box.plant.routeIds state))
    (initial : property state) : Succeeds (box.sweep state).2 :=
  Fallible.map_succeeds (Stage.performAll_succeeds preserved computed initial Stage.order)

end Interlocking

end SignalBox
