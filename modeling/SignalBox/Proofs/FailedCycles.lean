import SignalBox.Proofs.Backing

namespace SignalBox

/-!
# Cycles that fail

A cycle that fails leaves the state of a whole number of stages.  Each stage before the
failing one has written all of its changes, and the failing one none, as it finds all of
them before it writes the first.  Writing cannot fail.

Whether a cycle fails or not, it only touches the relays of defined routes.  The two inputs
that are kept with the relays of a route are as much outside of its reach as levers and
track circuits.
-/

/-- States that differ at most in relays of the listed routes. -/
structure State.SameBesideRelays (routes : List ObjectId) (first second : State) : Prop where
  rest : second = { first with routes := second.routes }
  keys : second.routes.keys = first.routes.keys
  ctc : ∀ id, (second.routes.get? id).map RouteRelays.ctc =
    (first.routes.get? id).map RouteRelays.ctc
  routeLock : ∀ id, (second.routes.get? id).map RouteRelays.routeLock =
    (first.routes.get? id).map RouteRelays.routeLock
  others : ∀ id, id ∉ routes → second.routes.get? id = first.routes.get? id

namespace State.SameBesideRelays

variable {routes : List ObjectId}

theorem refl (state : State) : SameBesideRelays routes state state :=
  ⟨rfl, rfl, fun _ => rfl, fun _ => rfl, fun _ _ => rfl⟩

theorem trans {first second third : State} (left : SameBesideRelays routes first second)
    (right : SameBesideRelays routes second third) : SameBesideRelays routes first third where
  rest := by rw [right.rest, left.rest]
  keys := right.keys.trans left.keys
  ctc id := (right.ctc id).trans (left.ctc id)
  routeLock id := (right.routeLock id).trans (left.routeLock id)
  others id unlisted := (right.others id unlisted).trans (left.others id unlisted)

end State.SameBesideRelays

namespace Stage.Effect

variable {stage : Stage} {box : Interlocking} {routes : List ObjectId} {state reached : State}
  (effect : Effect stage box routes state reached)
include effect

/-- What the new relays of every route have in common with the old ones is as it was. -/
theorem map_get?_eq {α : Type} {read : RouteRelays → α}
    (kept : ∀ id current relays, stage.next box state id current = .ok relays →
      read relays = read current) (id : ObjectId) :
    (reached.routes.get? id).map read = (state.routes.get? id).map read := by
  by_cases visited : id ∈ routes
  · rcases effect.written id visited with ⟨current, relays, entry, given, after⟩
    rw [State.entry_eq_ok.1 entry, State.entry_eq_ok.1 after]
    exact congrArg some (kept id current relays given)
  · rw [effect.others id visited]

theorem sameBesideRelays : State.SameBesideRelays routes state reached where
  rest := effect.rest
  keys := effect.keys
  ctc := effect.map_get?_eq fun _ _ _ given => (next_keeps given).2.1
  routeLock := effect.map_get?_eq fun _ _ _ given => (next_keeps given).2.2
  others := effect.others

end Stage.Effect

namespace Interlocking

variable {box : Interlocking} {state reached : State}

/-- A cycle leaves everything but relays of defined routes, also where it fails. -/
theorem sweep_sameBesideRelays (box : Interlocking) (state : State) :
    State.SameBesideRelays box.plant.routeIds state (box.sweep state).1 :=
  sweep_preserves (fun _ _ _ effect same => same.trans effect.sameBesideRelays)
    (State.SameBesideRelays.refl state)

/-- The cycle fails in a stage: the stages before it found their changes, each in the state
that the one before it left, and all of these have been written. -/
inductive FailsIn (box : Interlocking) (state reached : State) (missing : Missing) :
    Stage → Prop
  | lever (untouched : reached = state)
      (failed : box.stageChanges reached .lever = .error missing) :
      FailsIn box state reached missing .lever
  | route {levers : List RelayChange} (first : box.stageChanges state .lever = .ok levers)
      (written : state.commit levers = (reached, none))
      (failed : box.stageChanges reached .route = .error missing) :
      FailsIn box state reached missing .route
  | signalControl {levers routes : List RelayChange} {between : State}
      (first : box.stageChanges state .lever = .ok levers)
      (firstWritten : state.commit levers = (between, none))
      (second : box.stageChanges between .route = .ok routes)
      (secondWritten : between.commit routes = (reached, none))
      (failed : box.stageChanges reached .signalControl = .error missing) :
      FailsIn box state reached missing .signalControl

/-- A cycle cannot fail in two stages, as a stage that has failed has no changes to hand on. -/
theorem FailsIn.unique {missing : Missing} {stage other : Stage}
    (fails : FailsIn box state reached missing stage)
    (alsoFails : FailsIn box state reached missing other) : stage = other := by
  cases fails <;> cases alsoFails <;> grind

theorem sweep_fails_iff {missing : Missing} :
    box.sweep state = (reached, .error missing) ↔
      ∃ stage, FailsIn box state reached missing stage := by
  rw [sweep_eq_error]
  constructor
  · rintro ⟨earlier, stage, later, found, order, run, failed⟩
    rcases earlier with _ | ⟨first, _ | ⟨second, _ | ⟨third, rest⟩⟩⟩
    · cases order
      cases run
      exact ⟨.lever, .lever rfl failed⟩
    · cases order
      rcases run with _ | ⟨computed, written, _ | _⟩
      exact ⟨.route, .route computed written failed⟩
    · cases order
      rcases run with _ | ⟨computed, written, _ | ⟨laterComputed, laterWritten, _ | _⟩⟩
      exact ⟨.signalControl, .signalControl computed written laterComputed laterWritten failed⟩
    · simp [Stage.order] at order
  · rintro ⟨stage, fails⟩
    cases fails with
    | lever untouched failed =>
      subst untouched
      exact ⟨[], .lever, _, _, rfl, .done _, failed⟩
    | route first written failed =>
      exact ⟨[.lever], .route, _, _, rfl, .next first written (.done _), failed⟩
    | signalControl first firstWritten second secondWritten failed =>
      exact ⟨[.lever, .route], .signalControl, _, _, rfl,
        .next first firstWritten (.next second secondWritten (.done _)), failed⟩

/-- A failed cycle has written the changes of all stages before exactly one stage, in which it
failed, and no others.  Nothing can fail between finding changes and having written them, and
all that is not a relay of a defined route is as it was. -/
theorem failed_cycles_commit_whole_stages (box : Interlocking) (state : State) :
    (∀ reached missing, box.sweep state = (reached, .error missing) ↔
      ∃ stage, FailsIn box state reached missing stage ∧
        ∀ other, FailsIn box state reached missing other → other = stage) ∧
      (∀ stage start found, box.stageChanges start stage = .ok found →
        start.commit found = (found.foldl State.record start, none)) ∧
      ∀ reached missing, box.sweep state = (reached, .error missing) →
        State.SameBesideRelays box.plant.routeIds state reached := by
  refine ⟨fun reached missing => ?_, fun _ _ _ computed => Stage.commit_changes computed, ?_⟩
  · rw [sweep_fails_iff]
    constructor
    · rintro ⟨stage, fails⟩
      exact ⟨stage, fails, fun other alsoFails => alsoFails.unique fails⟩
    · rintro ⟨stage, fails, _⟩
      exact ⟨stage, fails⟩
  · intro reached missing swept
    have same := sweep_sameBesideRelays box state
    rw [swept] at same
    exact same

/-- The lever of the route has been thrown, and nothing is known of its points. -/
def singleBlind : State :=
  { singleThrown with machines := .empty }

/-- The lever stage does not look at points.  It has raised the lever relay by the time that
the route stage fails. -/
theorem blind_cycle_keeps_the_lever_stage :
    ∃ reached missing, single.sweep singleBlind = (reached, .error missing) ∧
      reached.isRaised .lever 10 = true ∧
      (∃ stage, FailsIn single singleBlind reached missing stage ∧ stage ≠ .lever) ∧
      State.SameBesideRelays single.plant.routeIds singleBlind reached := by
  have raised : (single.sweep singleBlind).1.isRaised .lever 10 = true := by decide
  have before : singleBlind.isRaised .lever 10 = false := by decide
  cases outcome : (single.sweep singleBlind).2 with
  | ok report => exact absurd (Fallible.isOk_iff.2 ⟨report, outcome⟩) (by decide)
  | error missing =>
    have swept : single.sweep singleBlind = ((single.sweep singleBlind).1, .error missing) :=
      Prod.ext rfl outcome
    have whole := failed_cycles_commit_whole_stages single singleBlind
    rcases (whole.1 _ missing).1 swept with ⟨stage, fails, _⟩
    refine ⟨_, missing, swept, raised, ⟨stage, fails, ?_⟩, whole.2.2 _ missing swept⟩
    rintro rfl
    cases fails with
    | lever untouched _ =>
      rw [untouched, before] at raised
      cases raised

end Interlocking

end SignalBox
