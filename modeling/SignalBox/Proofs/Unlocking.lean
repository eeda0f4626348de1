import Mathlib.Data.List.Induction
import SignalBox.Proofs.Backing
import SignalBox.Proofs.Runs

namespace SignalBox

/-!
# Conflicts that are subject to unlocking

A route that is subject to unlocking in the direct lock of another one does not lock it.
What keeps the two apart is only that the route stage asks for the other route relay to be
dropped.  It asks the state before the stage, so two routes that are both still dropped do
not see each other rise: thrown before the same cycle, they are set together.

This is the only way.  `set_together` says of every state in which both signal-control
relays are raised that the last successful cycle began with both route relays dropped.
So a route that is already set keeps the other one from being set beside it.
-/

namespace Interlocking

/-- The direct lock of the first route cannot do without the second one being dropped, and
the second one is subject to unlocking there. -/
def LocksUnlockably (box : Interlocking) (first second : ObjectId) : Prop :=
  ∃ leaf, leaf ∈ box.demands first ∧ leaf.target = second ∧ leaf.subjectToUnlock = true

instance (box : Interlocking) (first second : ObjectId) :
    Decidable (box.LocksUnlockably first second) :=
  inferInstanceAs (Decidable (∃ leaf, leaf ∈ box.demands first ∧ leaf.target = second ∧
    leaf.subjectToUnlock = true))

variable {box : Interlocking} {before after : State} {report : SweepReport}
  {first second : ObjectId}

/-- A cycle that ends with the signal-control relay of a route raised has found the routes
dropped that the route cannot do without. -/
theorem dropped_before_of_sweep (swept : box.sweep before = (after, .ok report))
    (conflict : box.LocksUnlockably first second) (route : box.plant.kind second = .ok .route)
    (defined : first ∈ box.plant.routeIds)
    (raised : after.isRaised .signalControl first = true) :
    before.isRaised .route second = false := by
  rcases effects_of_sweep swept with ⟨levers, routes, leverEffect, routeEffect, signalEffect⟩
  rcases conflict with ⟨leaf, demanded, rfl, _⟩
  have routeRaised := (signalEffect.of_signalControl_raised defined raised).1
  have unlocked := (routeEffect.of_route_raised defined routeRaised).2.1
  have dropped := dropped_of_isUnlocked (ask_of_demands unlocked demanded) route
  rw [leverEffect.isRaised_eq .route (by decide)] at dropped
  exact dropped

/-- The three relays of a route are raised after a cycle that ends with the last of them
raised. -/
theorem set_of_sweep (swept : box.sweep before = (after, .ok report))
    (defined : first ∈ box.plant.routeIds)
    (raised : after.isRaised .signalControl first = true) :
    after.isRaised .route first = true ∧ after.isRaised .lever first = true := by
  have route := (clear_of_signalControl_raised swept defined raised).1
  exact ⟨route, (backed_of_route_raised swept defined route).1⟩

end Interlocking

namespace State

/-- The signal-control relays of both routes are raised. -/
def BothClear (state : State) (first second : ObjectId) : Prop :=
  state.isRaised .signalControl first = true ∧ state.isRaised .signalControl second = true

instance (state : State) (first second : ObjectId) : Decidable (state.BothClear first second) :=
  inferInstanceAs (Decidable (_ ∧ _))

/-- Both routes are set: their three relays are raised. -/
structure BothSet (state : State) (first second : ObjectId) : Prop where
  lever : state.isRaised .lever first = true ∧ state.isRaised .lever second = true
  route : state.isRaised .route first = true ∧ state.isRaised .route second = true
  signalControl : state.BothClear first second

/-- The route relays of both routes are dropped. -/
def BothDropped (state : State) (first second : ObjectId) : Prop :=
  state.isRaised .route first = false ∧ state.isRaised .route second = false

end State

namespace Engine

/-- The last cycle of a run that succeeded set two routes together: it began with both
route relays dropped and ended with all relays of both raised.  Every later cycle of the
run failed. -/
def SetTogether (engine : Engine) (first second : ObjectId) (actions : List Action) : Prop :=
  ∃ earlier later before after report, actions = earlier ++ .cycle :: later ∧
    (engine.run earlier).live = .running before ∧
    engine.box.sweep before = (after, .ok report) ∧
    before.BothDropped first second ∧ after.BothSet first second ∧
    EachCycle (fun engine => ¬ Succeeds engine.cycle.2) (engine.run (earlier ++ [.cycle])) later

variable {engine : Engine} {first second : ObjectId}

/-- Routes that were set together stay so through actions other than successful cycles. -/
theorem SetTogether.concat {actions : List Action} {action : Action}
    (together : engine.SetTogether first second actions)
    (fails : action.isCycle = true → ¬ Succeeds (engine.run actions).cycle.2) :
    engine.SetTogether first second (actions ++ [action]) := by
  rcases together with ⟨earlier, later, before, after, report, rfl, live, swept, dropped, set,
    failed⟩
  refine ⟨earlier, later ++ [action], before, after, report, ?_, live, swept, dropped, set, ?_⟩
  · rw [List.append_assoc, List.cons_append]
  · rw [eachCycle_append, ← run_append, List.append_assoc, List.singleton_append]
    exact ⟨failed, fails, True.intro⟩

section Conflict

variable (conflict : engine.box.LocksUnlockably first second)
  (back : engine.box.LocksUnlockably second first)
  (definedFirst : first ∈ engine.box.plant.routeIds)
  (definedSecond : second ∈ engine.box.plant.routeIds)
  (consistent : engine.box.plant.Consistent)
include conflict back definedFirst definedSecond consistent

/-- Both signal-control relays are raised only by a cycle that sets the routes together. -/
theorem setTogether_of_bothClear
    (initial : engine.live.Satisfies fun state => ¬ state.BothClear first second)
    (actions : List Action) {state : State}
    (reached : (engine.run actions).live = .running state)
    (clear : state.BothClear first second) : engine.SetTogether first second actions := by
  induction actions using List.reverseRecOn generalizing state with
  | nil =>
    change engine.live = .running state at reached
    rw [reached] at initial
    exact absurd clear initial
  | append_singleton earlier action inductionHypothesis =>
    rw [run_append] at reached
    rcases effect_of_act reached with ⟨before, live, effect⟩
    rw [run_box] at effect
    cases effect with
    | refused failed => exact (inductionHypothesis live clear).concat (fun cycle => nomatch cycle)
    | mutated done =>
      have same := State.isRaised_mutate done .signalControl
      rw [State.BothClear, same, same] at clear
      exact (inductionHypothesis live clear).concat (fun cycle => nomatch cycle)
    | moved => exact (inductionHypothesis live clear).concat (fun cycle => nomatch cycle)
    | swept =>
      rcases swept : engine.box.sweep before with ⟨after, outcome⟩
      rw [swept] at clear
      cases outcome with
      | error missing =>
        have same := Interlocking.signalControl_of_failed swept
        rw [State.BothClear, same, same] at clear
        refine (inductionHypothesis live clear).concat fun _ succeeded => ?_
        rw [cycle_succeeds live, run_box, swept] at succeeded
        rcases succeeded with ⟨_, impossible⟩
        cases impossible
      | ok report =>
        have first := Interlocking.set_of_sweep swept definedFirst clear.1
        have second := Interlocking.set_of_sweep swept definedSecond clear.2
        refine ⟨earlier, [], before, after, report, rfl, live, swept, ⟨?_, ?_⟩, ?_, True.intro⟩
        · exact Interlocking.dropped_before_of_sweep swept back
            (consistent.kind_of_routeIds definedFirst) definedSecond clear.2
        · exact Interlocking.dropped_before_of_sweep swept conflict
            (consistent.kind_of_routeIds definedSecond) definedFirst clear.1
        · exact ⟨⟨first.2, second.2⟩, ⟨first.1, second.1⟩, clear⟩

end Conflict

/-- However clients act on an engine that has been loaded: if two defined routes lock each
other, each subject to unlocking, both signal-control relays are only ever raised by a
cycle that sets the two routes together, and no cycle has succeeded since. -/
theorem unlockable_conflicts_are_set_together {data : PlantData} {config : EngineConfig}
    {now : Time.Timestamp} (loaded : (load data config now).2 = .ok engine)
    (definedFirst : first ∈ engine.box.plant.routeIds)
    (definedSecond : second ∈ engine.box.plant.routeIds)
    (conflict : engine.box.LocksUnlockably first second)
    (back : engine.box.LocksUnlockably second first) (actions : List Action) {state : State}
    (reached : (engine.run actions).live = .running state)
    (clear : state.BothClear first second) : engine.SetTogether first second actions := by
  rcases load_eq_ok loaded with ⟨plant, locks, network, database, _, _, _, rfl⟩
  have consistent := PlantData.consistent_of_buildDatabase database
  refine setTogether_of_bothClear conflict back definedFirst definedSecond consistent ?_ actions
    reached clear
  rintro ⟨raised, _⟩
  rw [State.isRaised_initial] at raised
  cases raised

end Engine

/-! ## Two routes that face each other -/

/-- Two routes of which each one locks the other, subject to unlocking. -/
def PlantData.facing : PlantData :=
  { PlantData.crossing with
    lockTable := [⟨"TH71", "TH71_1R", .directLock, "｢2L｣"⟩,
      ⟨"TH71", "TH71_2L", .directLock, "｢1R｣"⟩] }

namespace Engine

/-- With both levers thrown before the same cycle, both signal-control relays rise. -/
private theorem facing_run :
    ∃ engine state, (load .facing {} default).2 = .ok engine ∧
      (10 ∈ engine.box.plant.routeIds ∧ 11 ∈ engine.box.plant.routeIds) ∧
      (engine.box.LocksUnlockably 10 11 ∧ engine.box.LocksUnlockably 11 10) ∧
      (engine.run [.mutate (.lever 1 .right), .mutate (.lever 2 .left), .cycle]).live =
        .running state ∧
      state.BothClear 10 11 := by
  have checked : (load .facing {} default).2.toOption.any (fun engine =>
      decide ((10 ∈ engine.box.plant.routeIds ∧ 11 ∈ engine.box.plant.routeIds) ∧
        engine.box.LocksUnlockably 10 11 ∧ engine.box.LocksUnlockably 11 10) &&
      (engine.run [.mutate (.lever 1 .right), .mutate (.lever 2 .left), .cycle]).live.state?.any
        fun state => decide (state.BothClear 10 11)) = true := by
    decide +kernel
  rcases Fallible.exists_of_any checked with ⟨engine, loaded, found⟩
  rw [Bool.and_eq_true, decide_eq_true_eq, Option.any_eq_true] at found
  rcases found with ⟨⟨defined, conflicts⟩, state, live, clear⟩
  exact ⟨engine, state, loaded, defined, conflicts, Live.state?_eq_some.1 live,
    of_decide_eq_true clear⟩

theorem facing_routes_are_set_together :
    ∃ engine, (load .facing {} default).2 = .ok engine ∧
      engine.SetTogether 10 11 [.mutate (.lever 1 .right), .mutate (.lever 2 .left), .cycle] := by
  rcases facing_run with ⟨engine, state, loaded, defined, conflicts, reached, clear⟩
  exact ⟨engine, loaded, unlockable_conflicts_are_set_together loaded defined.1 defined.2
    conflicts.1 conflicts.2 _ reached clear⟩

/-- Locking each other, subject to unlocking, does not keep two routes from having both
signal-control relays raised. -/
theorem facing_routes_clear_together :
    ∃ engine state, (load .facing {} default).2 = .ok engine ∧
      (10 ∈ engine.box.plant.routeIds ∧ 11 ∈ engine.box.plant.routeIds) ∧
      (engine.box.LocksUnlockably 10 11 ∧ engine.box.LocksUnlockably 11 10) ∧
      (engine.run [.mutate (.lever 1 .right), .mutate (.lever 2 .left), .cycle]).live =
        .running state ∧
      state.isRaised .signalControl 10 = true ∧ state.isRaised .signalControl 11 = true :=
  facing_run

end Engine

end SignalBox
