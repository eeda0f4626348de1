import SignalBox.Proofs.Places
import SignalBox.Proofs.Runs

namespace SignalBox

/-!
# Mutations along a run

Which mutations are accepted is settled when an interlocking is loaded.  Mutations, the clock and
cycles leave the keys of all tables alone, cycles that fail no less than others, so the entry that a
mutation names is there in every state of a run or in none.

A mutation that is refused leaves the engine as it was.  One that is accepted leaves a state in
which what was asked for stands, and which differs from the one before at the places that the
mutation names, if anywhere.
-/

open Time (Duration Timestamp)

namespace Engine

variable {engine : Engine} {state : State} {mutation : Mutation}

/-! ## One mutation of an engine -/

theorem mutate_of_refused {missing : Missing} (live : engine.live = .running state)
    (refused : state.mutate mutation = .error missing) :
    engine.mutate mutation = (engine, .error (.evaluation missing)) := by
  rw [mutate, live]
  dsimp only
  rw [refused]

theorem mutate_of_done {changed : State} (live : engine.live = .running state)
    (done : state.mutate mutation = .ok changed) :
    engine.mutate mutation = (engine.withState changed, .ok ()) := by
  rw [mutate, live]
  dsimp only
  rw [done]

/-- An engine accepts a mutation exactly if the entry that it names is there. -/
theorem mutate_succeeds_iff (live : engine.live = .running state) :
    Succeeds (engine.mutate mutation).2 ↔ mutation.Known state := by
  rw [← Mutation.mutate_succeeds]
  cases done : state.mutate mutation with
  | error missing =>
    rw [mutate_of_refused live done]
    exact iff_of_false nofun nofun
  | ok changed =>
    rw [mutate_of_done live done]
    exact iff_of_true ⟨(), rfl⟩ ⟨changed, rfl⟩

/-- An accepted mutation puts what was asked for at the places that it names, and the state is as
before if these places are. -/
structure Writes (mutation : Mutation) (state changed : State) : Prop where
  stands : mutation.Stands changed
  outside : ∀ place, place ∉ mutation.places → changed.SameAt state place
  named : (∀ place, place ∈ mutation.places → changed.SameAt state place) → changed = state

theorem writes_of_mutate {changed : State} (done : state.mutate mutation = .ok changed) :
    Writes mutation state changed := by
  have same := State.sameKeys_mutate done
  rcases Mutation.mutate_eq_ok.1 done with ⟨known, rfl⟩
  refine ⟨Mutation.stands_apply known, fun place => Mutation.sameAt_apply, fun named => ?_⟩
  refine State.ext_places same fun place => ?_
  by_cases within : place ∈ mutation.places
  · exact named place within
  · exact Mutation.sameAt_apply within

/-- A mutation is carried out as a whole or not at all. -/
theorem mutate_cases (live : engine.live = .running state) (mutation : Mutation) :
    (∃ missing, engine.mutate mutation = (engine, .error (.evaluation missing))) ∨
      ∃ changed, engine.mutate mutation = (engine.withState changed, .ok ()) ∧
        Writes mutation state changed := by
  cases done : state.mutate mutation with
  | error missing => exact .inl ⟨missing, mutate_of_refused live done⟩
  | ok changed => exact .inr ⟨changed, mutate_of_done live done, writes_of_mutate done⟩

/-- Moving the clock within its range changes the clock. -/
theorem advance_eq_ok {span : Duration} {instant : Timestamp} (live : engine.live = .running state)
    (moved : (engine.advance span).2 = .ok instant) :
    (engine.advance span).1 = engine.withState { state with now := instant } := by
  unfold advance at moved ⊢
  rw [live] at moved ⊢
  dsimp only at moved ⊢
  cases shifted : state.now.advance? span with
  | none =>
    rw [shifted] at moved
    cases moved
  | some now =>
    rw [shifted] at moved
    cases moved
    rfl

/-! ## Mutations of a loaded engine -/

/-- Wherever a run of a loaded interlocking has come, failed cycles included, the live state has the
entries of the initial state and no others, and a mutation that follows is accepted or refused as it
would have been at first.  Refused, it changes nothing.  Accepted, it changes the state at the
places that it names and nowhere else, and of no route does it change a relay that cycles write.
Moving the clock changes the clock. -/
theorem mutations_write_what_they_name {data : PlantData} {config : EngineConfig} {now : Timestamp}
    (loaded : (load data config now).2 = .ok engine) (actions : List Action)
    (live : (engine.run actions).live = .running state) :
    State.SameKeys state (State.initial engine.box.plant now) ∧
    (∀ mutation,
      (Succeeds ((engine.run actions).mutate mutation).2 ↔ Succeeds (engine.mutate mutation).2) ∧
      (∀ error, ((engine.run actions).mutate mutation).2 = .error error →
        ((engine.run actions).mutate mutation).1 = engine.run actions) ∧
      (((engine.run actions).mutate mutation).2 = .ok () → ∃ changed,
        ((engine.run actions).mutate mutation).1 = (engine.run actions).withState changed ∧
        Writes mutation state changed) ∧
      ∀ changed, ((engine.run actions).mutate mutation).1.live = .running changed →
        ∀ id relay, changed.SameAt state (.relay id relay)) ∧
    ∀ span instant, ((engine.run actions).advance span).2 = .ok instant →
      ((engine.run actions).advance span).1 =
        (engine.run actions).withState { state with now := instant } := by
  have start := live_of_load loaded
  have same := run_sameKeys start actions live
  refine ⟨same, fun mutation => ⟨?_, ?_⟩, fun span instant => advance_eq_ok live⟩
  · rw [mutate_succeeds_iff live, mutate_succeeds_iff start, same.known_iff]
  rcases mutate_cases live mutation with ⟨missing, refused⟩ | ⟨changed, done, writes⟩
  · rw [refused]
    refine ⟨fun _ _ => rfl, nofun, fun changed after id relay => ?_⟩
    cases live.symm.trans after
    rfl
  · rw [done]
    refine ⟨nofun, fun _ => ⟨changed, rfl, writes⟩, fun other after id relay => ?_⟩
    cases after
    exact writes.outside _ (mutation.relay_not_mem_places id relay)

/-- The signal of the one defined route waits for a route that is not defined. -/
def waiting : PlantData :=
  { PlantData.crossing with
    routes := [{ id := 10, lever := some 1 }]
    lockTable := [⟨"TH71", "TH71_1R", .signalControl, "2L"⟩] }

/-- A lever is thrown, the cycle fails in its last stage, and a button is named that is not there. -/
def failing : List Action :=
  [.mutate (.lever 1 .right), .cycle, .mutate (.button "TH71_AP" true)]

/-- The failed cycle has raised the route relay.  The track circuit is there to be occupied as
before, and a switching machine is no track circuit, as before. -/
theorem mutations_after_a_failed_cycle :
    ∃ engine state, (load waiting {} default).2 = .ok engine ∧
      (engine.run failing).live = .running state ∧
      ¬ Succeeds (engine.run [.mutate (.lever 1 .right)]).cycle.2 ∧
      state.isRaised .route 10 = true ∧
      State.SameKeys state (State.initial engine.box.plant default) ∧
      (∃ changed, ((engine.run failing).mutate (.track 30 true)).1 =
          (engine.run failing).withState changed ∧ Writes (.track 30 true) state changed) ∧
      ((engine.run failing).mutate (.track 20 true)).1 = engine.run failing ∧
      ¬ Succeeds (engine.mutate (.track 20 true)).2 := by
  have checked : (load waiting {} default).2.toOption.any (fun engine =>
        !(engine.run [.mutate (.lever 1 .right)]).cycle.2.isOk &&
        ((engine.run failing).live.state?.any fun state => state.isRaised .route 10) &&
        (engine.mutate (.track 30 true)).2.isOk && !(engine.mutate (.track 20 true)).2.isOk) =
      true := by
    decide +kernel
  rcases Fallible.exists_of_any checked with ⟨engine, loaded, found⟩
  simp only [Bool.and_eq_true, Bool.not_eq_true', ← Bool.not_eq_true, Fallible.isOk_iff,
    Option.any_eq_true] at found
  rcases found with ⟨⟨⟨failed, state, reached, raised⟩, accepted⟩, refused⟩
  have live := Live.state?_eq_some.1 reached
  rcases mutations_write_what_they_name loaded failing live with ⟨same, framed, _⟩
  rcases (framed (.track 30 true)).1.2 accepted with ⟨⟨⟩, done⟩
  refine ⟨engine, state, loaded, live, failed, raised, same, (framed (.track 30 true)).2.2.1 done,
    ?_, refused⟩
  cases answer : ((engine.run failing).mutate (.track 20 true)).2 with
  | error error => exact (framed (.track 20 true)).2.1 error answer
  | ok => exact absurd ((framed (.track 20 true)).1.1 ⟨(), answer⟩) refused

end Engine

end SignalBox
