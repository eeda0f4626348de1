import SignalBox.Proofs.FailedCycles
import SignalBox.Proofs.History

namespace SignalBox

/-!
# The clock of a run

Counted in nanoseconds, elapsed time is a difference and moving the clock a sum, as long as no
leap second is involved.  A leap second is the exception: it is counted where two times of day
are compared, and skipped when the clock is moved over it.  Moving the clock never leads into
one, so a clock that does not start in a leap second never stands in one, and along all of its
runs elapsed time is exactly what the clock has been moved by.
-/

namespace Time.Timestamp

/-- The nanoseconds from the start of day zero to an instant, as if no day had a leap second. -/
def nanoseconds (instant : Timestamp) : Int :=
  (instant.day * perDay + instant.second) * perSecond + instant.nanosecond

theorem nanoseconds_ofDay (day seconds nanos : Int) :
    (ofDay day seconds nanos).nanoseconds = (day * perDay + seconds) * perSecond + nanos := by
  simp only [nanoseconds, ofDay, perDay, perSecond]
  omega

theorem inLeapSecond_ofDay (day seconds nanos : Int) :
    (ofDay day seconds nanos).inLeapSecond = false := by
  refine decide_eq_false ?_
  simp only [ofDay, perSecond]
  omega

/-- Outside of leap seconds, elapsed time is the difference of two counts. -/
theorem elapsed_eq {earlier later : Timestamp} (regular : earlier.inLeapSecond = false)
    (regularLater : later.inLeapSecond = false) :
    elapsed earlier later = later.nanoseconds - earlier.nanoseconds := by
  simp only [elapsed, nanoseconds, regular, regularLater, Bool.and_false, Bool.false_eq_true,
    if_false, perDay, perSecond]
  omega

/-- The whole seconds from an instant to one that lies some nanoseconds ahead. -/
theorem le_wholeSeconds_iff {earlier later : Timestamp} (regular : earlier.inLeapSecond = false)
    (regularLater : later.inLeapSecond = false) {nanos : Int} (forward : 0 ≤ nanos)
    (ahead : later.nanoseconds = earlier.nanoseconds + nanos) {seconds : Int} :
    seconds ≤ wholeSeconds earlier later ↔ seconds * perSecond ≤ nanos := by
  have difference : elapsed earlier later = nanos := by
    rw [elapsed_eq regular regularLater, ahead]
    omega
  rw [wholeSeconds, difference, Int.tdiv_eq_ediv_of_nonneg forward]
  exact Int.le_ediv_iff_mul_le (by decide)

/-- Moving the clock from outside a leap second adds the duration, and does not lead into one. -/
theorem shift_regular {instant : Timestamp} (regular : instant.inLeapSecond = false)
    (span : Duration) :
    (instant.shift span).inLeapSecond = false ∧
      (instant.shift span).nanoseconds = instant.nanoseconds + span.nanoseconds := by
  have moved : instant.shift span = ofDay instant.day (instant.second + span.wholeSeconds)
      (instant.nanosecond + span.subsecond) := by
    unfold shift
    rw [regular]
    rfl
  rw [moved, inLeapSecond_ofDay, nanoseconds_ofDay]
  refine ⟨rfl, ?_⟩
  have whole := span.wholeSeconds_add_subsecond
  simp only [nanoseconds, perDay, perSecond] at whole ⊢
  omega

end Time.Timestamp

/-- How far an action moves the clock, in nanoseconds. -/
def Action.nanoseconds : Action → Int
  | advance span => span.nanoseconds
  | _ => 0

/-- How far the actions of a run move the clock, in nanoseconds. -/
def movedBy : List Action → Int
  | [] => 0
  | action :: rest => action.nanoseconds + movedBy rest

theorem movedBy_concat (earlier : List Action) (action : Action) :
    movedBy (earlier ++ [action]) = movedBy earlier + action.nanoseconds := by
  induction earlier with
  | nil => exact Int.add_comm action.nanoseconds 0
  | cons first rest inductionHypothesis =>
    rw [List.cons_append, movedBy, movedBy, inductionHypothesis, Int.add_assoc]

theorem movedBy_nonneg {actions : List Action}
    (forward : ∀ span, .advance span ∈ actions → 0 ≤ span.nanoseconds) : 0 ≤ movedBy actions := by
  induction actions with
  | nil => exact Int.le_refl 0
  | cons action rest inductionHypothesis =>
    have own : 0 ≤ action.nanoseconds := by
      cases action with
      | advance span => exact forward span List.mem_cons_self
      | _ => exact Int.le_refl 0
    have later := inductionHypothesis fun span member =>
      forward span (List.mem_cons_of_mem action member)
    exact Int.add_nonneg own later

theorem State.now_of_mutate {state changed : State} {mutation : Mutation}
    (mutated : state.mutate mutation = .ok changed) : changed.now = state.now := by
  rcases Mutation.mutate_eq_ok.1 mutated with ⟨_, rfl⟩
  exact Mutation.sameAt_apply mutation.clock_not_mem_places

namespace Engine

variable {engine : Engine} {start reached : State}

/-- A run that leaves a state starts from one. -/
theorem live_of_run {actions : List Action} (after : (engine.run actions).live = .running reached) :
    ∃ start, engine.live = .running start := by
  induction actions generalizing engine with
  | nil => exact ⟨reached, after⟩
  | cons action rest inductionHypothesis =>
    rcases inductionHypothesis after with ⟨middle, live⟩
    rcases effect_of_act live with ⟨start, before, _⟩
    exact ⟨start, before⟩

/-- Of all actions only the moving of the clock touches the clock. -/
theorem now_of_act {action : Action} (live : engine.live = .running start)
    (after : (engine.act action).live = .running reached) :
    (∃ span, action = .advance span ∧ reached.now = start.now.shift span) ∨
      action.nanoseconds = 0 ∧ reached.now = start.now := by
  cases action with
  | advance span =>
    refine .inl ⟨span, rfl, ?_⟩
    simp only [act, advance, live, Time.Timestamp.advance?] at after
    by_cases covered : (start.now.shift span).inRange = true
    · rw [if_pos covered] at after
      cases after
      rfl
    · rw [if_neg covered] at after
      cases after
  | mutate mutation =>
    rcases effect_of_act after with ⟨before, same, effect⟩
    cases live.symm.trans same
    cases effect with
    | refused failed => exact .inr ⟨rfl, rfl⟩
    | mutated done => exact .inr ⟨rfl, State.now_of_mutate done⟩
  | cycle =>
    rcases effect_of_act after with ⟨before, same, effect⟩
    cases live.symm.trans same
    cases effect
    refine .inr ⟨rfl, ?_⟩
    rw [(Interlocking.sweep_sameBesideRelays engine.box start).rest]

/-- A run that does not start in a leap second counts its clock up by what it moves it. -/
theorem now_of_run {actions : List Action} (live : engine.live = .running start)
    (regular : start.now.inLeapSecond = false)
    (after : (engine.run actions).live = .running reached) :
    reached.now.inLeapSecond = false ∧
      reached.now.nanoseconds = start.now.nanoseconds + movedBy actions := by
  induction actions using List.reverseRecOn generalizing reached with
  | nil =>
    cases live.symm.trans after
    exact ⟨regular, by simp [movedBy]⟩
  | append_singleton earlier action inductionHypothesis =>
    rw [run_append] at after
    rcases effect_of_act after with ⟨middle, before, _⟩
    rcases inductionHypothesis before with ⟨regularBefore, count⟩
    have total := movedBy_concat earlier action
    rcases now_of_act before after with ⟨span, rfl, shifted⟩ | ⟨still, same⟩
    · rcases Time.Timestamp.shift_regular regularBefore span with ⟨regularAfter, added⟩
      rw [shifted]
      refine ⟨regularAfter, ?_⟩
      rw [added, count, total, Action.nanoseconds]
      omega
    · rw [same, total, still, Int.add_zero]
      exact ⟨regularBefore, count⟩

end Engine

end SignalBox
