import Mathlib.Data.List.Induction
import SignalBox.Proofs.Runs

namespace SignalBox

/-!
# Histories of runs

A relay that holds itself shows more than the present state: what it shows after a cycle goes
back to an earlier one in which it was raised.  The history of a run is the list of the
states in which its cycles started.  It says everything that the relays written by cycles
depend on, since no other action writes them.

`Latched` describes a relay that is raised by one condition and kept by another.  What has to
be known of the relay is what one cycle makes of it; `isRaised_iff_latched` carries this over
to runs.
-/

/-- Somewhere in a history of states, the latest at its end, the latch was set, and it has held
from there on. -/
def Latched (sets holds : State → Prop) (history : List State) : Prop :=
  ∃ earlier start later, history = earlier ++ start :: later ∧ sets start ∧
    ∀ state, state ∈ start :: later → holds state

namespace Latched

variable {sets holds : State → Prop} {history : List State}

theorem not_nil : ¬ Latched sets holds [] := by
  rintro ⟨earlier, start, later, impossible, _⟩
  cases earlier <;> cases impossible

/-- With one more state the latch is set if it holds there, and is set there or was set
before. -/
theorem concat_iff {last : State} :
    Latched sets holds (history ++ [last]) ↔
      holds last ∧ (sets last ∨ Latched sets holds history) := by
  constructor
  · rintro ⟨earlier, start, later, split, set, held⟩
    rcases List.eq_nil_or_concat later with rfl | ⟨between, other, rfl⟩
    · rcases List.append_inj' split rfl with ⟨_, same⟩
      cases same
      exact ⟨held last List.mem_cons_self, .inl set⟩
    · rw [List.concat_eq_append] at split held
      have regrouped : history ++ [last] = (earlier ++ start :: between) ++ [other] := by
        rw [split, List.append_assoc, List.cons_append]
      rcases List.append_inj' regrouped rfl with ⟨rfl, same⟩
      cases same
      rw [← List.cons_append, List.forall_mem_append, List.forall_mem_singleton] at held
      exact ⟨held.2, .inr ⟨earlier, start, between, rfl, set, held.1⟩⟩
  · rintro ⟨held, set | ⟨earlier, start, later, rfl, set, before⟩⟩
    · exact ⟨history, last, [], rfl, set, List.forall_mem_singleton.2 held⟩
    · refine ⟨earlier, start, later ++ [last], List.append_assoc .., set, ?_⟩
      rw [← List.cons_append, List.forall_mem_append, List.forall_mem_singleton]
      exact ⟨before, held⟩

end Latched

namespace Engine

/-- The states in which the cycles of a run start. -/
def cycleStarts (engine : Engine) : List Action → List State
  | [] => []
  | action :: rest =>
    (if action.isCycle then engine.live.state?.toList else []) ++
      (engine.act action).cycleStarts rest

variable {engine : Engine}

theorem cycleStarts_append {earlier later : List Action} :
    engine.cycleStarts (earlier ++ later) =
      engine.cycleStarts earlier ++ (engine.run earlier).cycleStarts later := by
  induction earlier generalizing engine with
  | nil => rfl
  | cons action rest inductionHypothesis =>
    rw [List.cons_append, cycleStarts, cycleStarts, inductionHypothesis, List.append_assoc]
    rfl

theorem cycleStarts_concat_of_not_cycle {earlier : List Action} {action : Action}
    (other : action.isCycle = false) :
    engine.cycleStarts (earlier ++ [action]) = engine.cycleStarts earlier := by
  rw [cycleStarts_append, cycleStarts, other]
  exact List.append_nil _

theorem cycleStarts_concat_cycle {earlier : List Action} {state : State}
    (live : (engine.run earlier).live = .running state) :
    engine.cycleStarts (earlier ++ [.cycle]) = engine.cycleStarts earlier ++ [state] := by
  rw [cycleStarts_append, cycleStarts, live]
  rfl

/-- What mutations and the clock keep, and cycles that start in certain states, holds along every
run whose cycles succeed and start in such states. -/
theorem run_preserves_of_starts {property starts : State → Prop}
    (mutated : ∀ state mutation changed, state.mutate mutation = .ok changed →
      property state → property changed)
    (moved : ∀ (state : State) now, property state → property { state with now })
    (swept : ∀ state final report, engine.box.sweep state = (final, .ok report) →
      starts state → property state → property final)
    {actions : List Action}
    (succeed : EachCycle (fun engine => Succeeds engine.cycle.2) engine actions)
    (started : ∀ state, state ∈ engine.cycleStarts actions → starts state)
    (initial : engine.live.Satisfies property) :
    (engine.run actions).live.Satisfies property := by
  induction actions using List.reverseRecOn with
  | nil => exact initial
  | append_singleton earlier action inductionHypothesis =>
    rcases eachCycle_append.1 succeed with ⟨before, last, _⟩
    rw [cycleStarts_append, List.forall_mem_append] at started
    have known := inductionHypothesis before started.1
    rw [run_append]
    cases after : ((engine.run earlier).run [action]).live with
    | lost => exact True.intro
    | running reached =>
      rcases effect_of_act after with ⟨start, live, effect⟩
      rw [live] at known
      cases effect with
      | refused failed => exact known
      | mutated done => exact mutated _ _ _ done known
      | moved span _ now => exact moved _ now known
      | swept =>
        rcases (cycle_succeeds live).1 (last rfl) with ⟨report, succeeded⟩
        rw [run_box] at succeeded ⊢
        refine swept start _ report (Prod.ext rfl succeeded) (started.2 start ?_) known
        rw [cycleStarts, live]
        exact List.mem_cons_self

/-- Of all actions only a cycle writes relays.  So a relay that a cycle leaves raised where it
may be raised, and is raised by the cycle or was raised before it, shows along a run whether
it is latched. -/
theorem isRaised_iff_latched {relay : Relay} {id : ObjectId} {sets holds : State → Prop}
    (step : ∀ state final report, engine.box.sweep state = (final, .ok report) →
      (final.isRaised relay id = true ↔
        holds state ∧ (sets state ∨ state.isRaised relay id = true)))
    (initial : engine.live.Satisfies fun state => state.isRaised relay id = false)
    (actions : List Action)
    (succeed : EachCycle (fun engine => Succeeds engine.cycle.2) engine actions) {state : State}
    (reached : (engine.run actions).live = .running state) :
    state.isRaised relay id = true ↔ Latched sets holds (engine.cycleStarts actions) := by
  induction actions using List.reverseRecOn generalizing state with
  | nil =>
    change engine.live = .running state at reached
    rw [reached] at initial
    change state.isRaised relay id = false at initial
    rw [initial]
    exact ⟨nofun, fun latched => absurd latched Latched.not_nil⟩
  | append_singleton earlier action inductionHypothesis =>
    rcases eachCycle_append.1 succeed with ⟨before, last, _⟩
    rw [run_append] at reached
    rcases effect_of_act reached with ⟨start, live, effect⟩
    have known := inductionHypothesis before live
    cases effect with
    | refused failed => rwa [cycleStarts_concat_of_not_cycle rfl]
    | mutated done => rwa [cycleStarts_concat_of_not_cycle rfl, State.isRaised_mutate done]
    | moved => rwa [cycleStarts_concat_of_not_cycle rfl]
    | swept =>
      rcases (cycle_succeeds live).1 (last rfl) with ⟨report, succeeded⟩
      rw [run_box] at succeeded ⊢
      rw [step start _ report (Prod.ext rfl succeeded), known, cycleStarts_concat_cycle live,
        Latched.concat_iff]

end Engine

end SignalBox
