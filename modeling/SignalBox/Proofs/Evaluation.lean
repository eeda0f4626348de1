import SignalBox.Proofs.Completeness
import SignalBox.Proofs.Runs
import SignalBox.Proofs.SignalCoverage

namespace SignalBox

/-!
# Engines that evaluate along all runs

An engine is complete if its interlocking is and the routes of its signals are defined.
This is exactly what loading leaves open.  Along every run of a complete engine every
cycle, every query for all aspects and every query for a detector succeeds, and an engine
for which they all do is complete.

For the second half no long run is needed.  The initial state already makes every signal
look at its routes, as no track circuit is occupied, and the first cycle follows all
references but the far ends of guarded controls; one turn of a key makes such a control
act.
-/

namespace Engine

/-- The interlocking is complete, and the routes of every signal are defined. -/
structure Complete (engine : Engine) : Prop where
  box : engine.box.Complete
  routes : ∀ name signal, engine.network.signal? name = some signal →
    ∀ id, id ∈ signal.definition.routes → id ∈ engine.box.plant.routeIds

/-- A cycle, the query for all aspects and every query for a detector succeed. -/
structure Evaluates (engine : Engine) : Prop where
  cycle : Succeeds engine.cycle.2
  aspects : Succeeds engine.allAspects
  detector : ∀ machine, Succeeds (engine.isDetectorLocked machine)

/-- What loading has checked of an engine. -/
structure Checked (engine : Engine) : Prop where
  built : engine.box.Built
  references : ∀ name signal, engine.network.signal? name = some signal →
    ∀ id kind, (id, kind) ∈ signal.definition.references → engine.box.plant.kind id = .ok kind

variable {engine : Engine}

theorem checked_of_load {data : PlantData} {config : EngineConfig} {now : Time.Timestamp}
    (loaded : (load data config now).2 = .ok engine) : engine.Checked := by
  rcases load_eq_ok loaded with ⟨plant, locks, network, database, table, _, references, rfl⟩
  have consistent := PlantData.consistent_of_buildDatabase database
  have leverless := PlantData.leverless_of_buildDatabase database
  constructor
  · exact ⟨consistent, leverless, LockTable.known_of_build consistent table⟩
  · intro name signal defined id kind member
    exact SignalNetwork.kind_of_checkReferences references defined member

/-! ## A complete engine evaluates -/

theorem evaluates_of_complete (checked : engine.Checked) (complete : engine.Complete)
    {state : State} (live : engine.live = .running state)
    (covers : state.Covers engine.box.plant) : engine.Evaluates where
  cycle := (cycle_succeeds live).2
    (Interlocking.sweep_of_complete checked.built complete.box covers)
  aspects := by
    rw [allAspects_succeeds live, SignalNetwork.aspects_succeeds]
    intro name _
    apply SignalNetwork.plain_succeeds
    intro other signal defined
    exact Signal.isProceedable_succeeds covers (checked.references other signal defined)
      (complete.routes other signal defined)
  detector machine := (isDetectorLocked_succeeds live machine).2
    (Interlocking.isDetectorLocked_of_complete checked.built complete.box covers machine)

/-! ## An engine that evaluates is complete -/

/-- Clients can make every control act whose guard has a key. -/
theorem exists_active {state : State} (live : engine.live = .running state)
    (covers : state.Covers engine.box.plant) {control : ThrowOut}
    (guarded : engine.box.plant.IsGuarded control) :
    ∃ actions next, (engine.run actions).live = .running next ∧
      State.SameKeys next state ∧ next.chrRelays = state.chrRelays ∧
      Interlocking.isActive next control = .ok true := by
  cases guard : control.conditionLever with
  | none =>
    refine ⟨[], state, live, State.SameKeys.refl state, rfl, ?_⟩
    rw [Interlocking.isActive, guard]
    rfl
  | some lever =>
    have direction : ∃ direction, control.conditionDirection.getD .reversed = direction :=
      ⟨_, rfl⟩
    rcases direction with ⟨direction, asked⟩
    have listed : lever ∈ state.keyLevers.keys :=
      State.entry_succeeds.1 ((covers.keyLever lever).2 (guarded lever guard))
    rcases (Table.mem_keys_iff_get? _ _).1 listed with ⟨current, found⟩
    have turned : state.mutate (.keyLever lever direction) = .ok
        { state with keyLevers := state.keyLevers.modify lever fun _ => direction } :=
      Mutation.mutate_eq_ok.2 ⟨listed, rfl⟩
    refine ⟨[.mutate (.keyLever lever direction)], _, ?_, State.sameKeys_mutate turned, rfl, ?_⟩
    · change (engine.mutate _).1.live = _
      unfold mutate
      rw [live]
      dsimp only
      rw [turned]
      rfl
    · have entry : State.keyLever
          { state with keyLevers := state.keyLevers.modify lever fun _ => direction } lever =
          .ok direction := by
        refine State.entry_eq_ok.2 ?_
        rw [Table.get?_modify, found, Option.map_some, if_pos rfl]
      rw [Interlocking.isActive, guard]
      refine Fallible.bind_eq_ok.2 ⟨direction, entry, congrArg Except.ok ?_⟩
      rw [asked]
      exact beq_self_eq_true direction

section Necessary

variable (checked : engine.Checked) {now : Time.Timestamp}
  (live : engine.live = .running (State.initial engine.box.plant now))
  (always : ∀ actions state, (engine.run actions).live = .running state →
    (engine.run actions).Evaluates)
include checked live always

theorem connects_of_always {control : ThrowOut}
    (listed : control ∈ engine.box.plant.throwOuts) (reaches : engine.box.plant.Reaches control) :
    engine.box.plant.Connects control := by
  have covers := State.covers_initial checked.built.consistent now
  have station : ∀ lever raised,
      (State.initial engine.box.plant now).chrRelay lever = .ok raised → raised = false := by
    intro lever raised entered
    exact State.eq_of_entry_uniform entered
  have first := (cycle_succeeds live).1 (always [] _ live).cycle
  have guarded := (Interlocking.ends_of_sweep covers first checked.built station listed reaches).1
  rcases exists_active live covers guarded with ⟨actions, next, reached, same, central, acts⟩
  have swept := (cycle_succeeds reached).1 (always actions next reached).cycle
  rw [run_box] at swept
  have dropped : ∀ lever raised, next.chrRelay lever = .ok raised → raised = false := by
    intro lever raised entered
    unfold State.chrRelay at entered
    rw [central] at entered
    exact station lever raised entered
  have ends := (Interlocking.ends_of_sweep (covers.of_sameKeys same) swept checked.built dropped
    listed reaches).2 acts
  exact ⟨ends.1, ends.2, guarded⟩

/-- In the initial state every signal looks at its routes, as its track circuit is clear. -/
theorem routes_of_always {name : String} {signal : Signal}
    (defined : engine.network.signal? name = some signal) {id : ObjectId}
    (member : id ∈ signal.definition.routes) : id ∈ engine.box.plant.routeIds := by
  have covers := State.covers_initial checked.built.consistent now
  have answered := (allAspects_succeeds live).1 (always [] _ live).aspects
  have named : name ∈ engine.network.names := SignalNetwork.mem_names.2 ⟨signal, defined⟩
  have plain := SignalNetwork.aspects_succeeds.1 answered name named
  rcases SignalNetwork.isProceedable_of_plain plain defined with ⟨proceedable, own⟩
  rcases Fallible.bind_eq_ok.1 own with ⟨clear, track, rest⟩
  have free : clear = true := by
    unfold Signal.isTrackClear at track
    cases guards : signal.definition.track with
    | none =>
      rw [guards] at track
      exact (Except.ok.inj track).symm
    | some circuit =>
      rw [guards] at track
      rcases Fallible.map_eq_ok.1 track with ⟨found, entered, value⟩
      rw [← value, State.eq_of_entry_uniform entered]
      rfl
  subst free
  rcases Fallible.bind_eq_ok.1 rest with ⟨cleared, given, _⟩
  exact (Signal.isRouteCleared_succeeds covers).1 ⟨cleared, given⟩ id member

theorem complete_of_always : engine.Complete := by
  have covers := State.covers_initial checked.built.consistent now
  have start := always [] _ live
  have swept := (cycle_succeeds live).1 start.cycle
  refine ⟨⟨?_, ?_, ?_, ?_⟩, ?_⟩
  · intro id defined leaf member
    exact Interlocking.directLock_of_sweep covers swept checked.built defined member
  · intro id defined leaf member
    exact Interlocking.signalControl_of_sweep covers swept checked.built defined member
  · intro id leaf member
    have asked := (isDetectorLocked_succeeds live id).1 (start.detector id)
    have known := Interlocking.known_of_leavesAt checked.built.known member
    exact (Interlocking.isLocking_succeeds covers known).1
      (Interlocking.isLocked?_succeeds.1 asked leaf member)
  · intro control listed reaches
    exact connects_of_always checked live always listed reaches
  · intro name signal defined id member
    exact routes_of_always checked live always defined member

end Necessary

/-! ## Completeness is exact -/

instance (engine : Engine) : Decidable engine.Complete :=
  decidable_of_iff
    (engine.box.Complete ∧ ∀ name, name ∈ engine.network.names →
      ∀ signal, signal ∈ (engine.network.signal? name).toList →
        ∀ id, id ∈ signal.definition.routes → id ∈ engine.box.plant.routeIds) (by
    simp only [Option.mem_toList]
    constructor
    · rintro ⟨box, routes⟩
      refine ⟨box, fun name signal defined => ?_⟩
      exact routes name (SignalNetwork.mem_names.2 ⟨signal, defined⟩) signal defined
    · intro complete
      exact ⟨complete.box, fun name _ => complete.routes name⟩)

/-- Along all runs of an engine that has been loaded every cycle, every query for all
aspects and every query for a detector succeeds, exactly if the engine is complete. -/
theorem evaluates_along_runs_iff_complete {engine : Engine} {data : PlantData}
    {config : EngineConfig} {now : Time.Timestamp}
    (loaded : (load data config now).2 = .ok engine) :
    (∀ actions state, (engine.run actions).live = .running state →
      (engine.run actions).Evaluates) ↔ engine.Complete := by
  have checked := checked_of_load loaded
  have live := live_of_load loaded
  constructor
  · exact complete_of_always checked live
  · intro complete actions state reached
    have box := run_box engine actions
    have network := run_network engine actions
    have same := run_sameKeys live actions reached
    have covers := (State.covers_initial checked.built.consistent now).of_sameKeys same
    rw [← box] at covers
    refine evaluates_of_complete ⟨?_, ?_⟩ ⟨?_, ?_⟩ reached covers
    · rw [box]
      exact checked.built
    · rw [box, network]
      exact checked.references
    · rw [box]
      exact complete.box
    · rw [box, network]
      exact complete.routes

theorem crossing_always_evaluates :
    ∃ engine, (load .crossing {} default).2 = .ok engine ∧
      ∀ actions state, (engine.run actions).live = .running state →
        (engine.run actions).Evaluates := by
  have checked : (load .crossing {} default).2.toOption.any (fun engine =>
      decide engine.Complete) = true := by
    decide +kernel
  rcases Fallible.exists_of_any checked with ⟨engine, loaded, complete⟩
  exact ⟨engine, loaded,
    (evaluates_along_runs_iff_complete loaded).2 (of_decide_eq_true complete)⟩

/-- A plant that is accepted although its one defined route locks a route without
definition out: its very first cycle fails. -/
theorem undefined_conflict_fails :
    ∃ engine state, (load { PlantData.crossing with
        routes := [{ id := 10, lever := some 1 }] } {} default).2 = .ok engine ∧
      (engine.run []).live = .running state ∧ ¬ Succeeds (engine.run []).cycle.2 := by
  have checked : (load { PlantData.crossing with
      routes := [{ id := 10, lever := some 1 }] } {} default).2.toOption.any (fun engine =>
        engine.live.state?.isSome && !engine.cycle.2.isOk) = true := by
    decide +kernel
  rcases Fallible.exists_of_any checked with ⟨engine, loaded, found⟩
  rw [Bool.and_eq_true, Option.isSome_iff_exists, Bool.not_eq_true'] at found
  rcases found with ⟨⟨state, live⟩, failed⟩
  refine ⟨engine, state, loaded, Live.state?_eq_some.1 live, fun succeeded => ?_⟩
  have passed : engine.cycle.2.isOk = true := Fallible.isOk_iff.2 succeeded
  rw [failed] at passed
  cases passed

end Engine

end SignalBox
