import SignalBox.Proofs.Clock

namespace SignalBox

/-!
# Timed occupancy

A timed requirement looks at how long a track circuit has been occupied, and a track circuit
only keeps the clock reading of the last change of its occupancy.  Calls that report the
occupancy that it has already come as often as changes, and must not restart the timer.

`Engine.occupancyChanges` lists the changes that a run has made, each with the clock reading at
that time and the actions that have followed it.  What the track circuit keeps is the last
of them.  Where no leap second disturbs the clock, the reading and the present clock lie as
far apart as those actions have moved it.
-/

open Time (Timestamp)

/-- A change of the occupancy of a track circuit in a run. -/
structure OccupancyChange where
  occupied : Bool
  clock : Timestamp
  /-- The actions of the run after the change. -/
  later : List Action

/-- What a track circuit keeps of the changes of its occupancy: the last one. -/
def TrackState.stamp (track : TrackState) : Bool × Option Timestamp :=
  (track.occupied, track.changedAt)

/-- The occupancy that an action gives to a track circuit, if it is another one than before. -/
def State.occupancyAfter? (state : State) (id : ObjectId) : Action → Option Bool
  | .mutate (.track target occupied) =>
    if target = id ∧ (state.tracks.get? id).any (·.occupied != occupied) then some occupied
    else none
  | _ => none

/-- The changes of the occupancy of a track circuit along a run, the last one at the end. -/
def Engine.occupancyChanges (engine : Engine) (id : ObjectId) : List Action → List OccupancyChange
  | [] => []
  | action :: later =>
    let change := engine.live.state?.bind fun state =>
      (state.occupancyAfter? id action).map fun occupied => ⟨occupied, state.now, later⟩
    change.toList ++ (engine.act action).occupancyChanges id later

namespace State

variable {state changed : State} {id : ObjectId} {circuit : TrackState}

/-- A mutation stamps a track circuit where it changes the occupancy, and leaves the stamp
everywhere else. -/
theorem stamp_of_mutate {mutation : Mutation} (mutated : state.mutate mutation = .ok changed)
    (entered : state.track id = .ok circuit) :
    ∃ after, changed.track id = .ok after ∧
      after.stamp = (state.occupancyAfter? id (.mutate mutation)).elim circuit.stamp
        fun occupied => (occupied, some state.now) := by
  rw [track, entry_eq_ok] at entered
  have updated : ∀ target update, (state.tracks.modify target update).get? id =
      some (if id = target then update circuit else circuit) := by
    intro target update
    rw [Table.get?_modify, entered, Option.map_some]
  rcases Mutation.mutate_eq_ok.1 mutated with ⟨_, rfl⟩
  cases mutation with
  | track target occupied =>
    refine ⟨_, entry_eq_ok.2 (updated target _), ?_⟩
    rw [occupancyAfter?, entered, Option.any_some]
    by_cases own : id = target
    · subst own
      by_cases kept : circuit.occupied = occupied
      · simp [TrackState.occupy, kept]
      · simp [TrackState.occupy, TrackState.stamp, kept]
    · simp [own, Ne.symm own]
  | trackLock target locked =>
    refine ⟨_, entry_eq_ok.2 (updated target _), ?_⟩
    by_cases own : id = target <;> simp [occupancyAfter?, TrackState.stamp, own]
  | _ => exact ⟨circuit, entry_eq_ok.2 entered, rfl⟩

/-- A mutation that is refused would not have changed an occupancy. -/
theorem occupancyAfter?_of_refused {mutation : Mutation} {missing : Missing}
    (refused : state.mutate mutation = .error missing) :
    state.occupancyAfter? id (.mutate mutation) = none := by
  cases mutation with
  | track target occupied =>
    refine if_neg ?_
    rintro ⟨rfl, differs⟩
    rw [Option.any_eq_true] at differs
    rcases differs with ⟨circuit, entered, _⟩
    have known : (Mutation.track target occupied).Known state :=
      (Table.mem_keys_iff_get? ..).2 ⟨circuit, entered⟩
    rcases Mutation.mutate_succeeds.2 known with ⟨changed, done⟩
    cases refused.symm.trans done
  | _ => rfl

end State

namespace Engine

variable {engine : Engine} {start reached : State} {id : ObjectId} {circuit : TrackState}
  {actions : List Action}

theorem stamp_of_act {action : Action} (live : engine.live = .running start)
    (after : (engine.act action).live = .running reached)
    (entered : start.track id = .ok circuit) :
    ∃ final, reached.track id = .ok final ∧
      final.stamp = (start.occupancyAfter? id action).elim circuit.stamp
        fun occupied => (occupied, some start.now) := by
  rcases effect_of_act after with ⟨before, same, effect⟩
  cases live.symm.trans same
  cases effect with
  | refused failed =>
    rw [State.occupancyAfter?_of_refused failed]
    exact ⟨circuit, entered, rfl⟩
  | mutated done => exact State.stamp_of_mutate done entered
  | moved => exact ⟨circuit, entered, rfl⟩
  | swept =>
    refine ⟨circuit, ?_, rfl⟩
    rw [(Interlocking.sweep_sameBesideRelays engine.box start).rest]
    exact entered

/-- After a run a track circuit carries the stamp of the last change, and where there was none
the stamp that it had. -/
theorem stamp_of_run (live : engine.live = .running start)
    (after : (engine.run actions).live = .running reached)
    (entered : start.track id = .ok circuit) :
    ∃ final, reached.track id = .ok final ∧
      final.stamp = (engine.occupancyChanges id actions).getLast?.elim circuit.stamp
        fun change => (change.occupied, some change.clock) := by
  induction actions generalizing engine start circuit with
  | nil =>
    cases live.symm.trans after
    exact ⟨circuit, entered, rfl⟩
  | cons action rest inductionHypothesis =>
    have behind : ((engine.act action).run rest).live = .running reached := after
    rcases live_of_run behind with ⟨middle, between⟩
    rcases stamp_of_act live between entered with ⟨next, nextEntered, stamped⟩
    rcases inductionHypothesis between behind nextEntered with ⟨final, found, last⟩
    refine ⟨final, found, ?_⟩
    rw [last, stamped, occupancyChanges, live, List.getLast?_append]
    -- The first action only shows where none of the others has changed the occupancy.
    cases ((engine.act action).occupancyChanges id rest).getLast? with
    | some change => rfl
    | none =>
      change _ = Option.elim (List.getLast? (Option.toList (Option.map _ _))) _ _
      cases start.occupancyAfter? id action <;> rfl

theorem later_subset {change : OccupancyChange}
    (listed : change ∈ engine.occupancyChanges id actions) : change.later ⊆ actions := by
  induction actions generalizing engine with
  | nil => cases listed
  | cons action rest inductionHypothesis =>
    rcases List.mem_append.1 listed with own | behind
    · rcases Option.bind_eq_some_iff.1 (Option.mem_toList.1 own) with ⟨state, _, changed⟩
      rcases Option.map_eq_some_iff.1 changed with ⟨occupied, _, rfl⟩
      exact List.subset_cons_self action rest
    · exact List.subset_cons_of_subset action (inductionHypothesis behind)

/-- Since a change the clock has run on by as much as the actions since have moved it. -/
theorem clock_of_change (live : engine.live = .running start)
    (regular : start.now.inLeapSecond = false)
    (after : (engine.run actions).live = .running reached) {change : OccupancyChange}
    (listed : change ∈ engine.occupancyChanges id actions) :
    change.clock.inLeapSecond = false ∧
      reached.now.nanoseconds = change.clock.nanoseconds + movedBy change.later := by
  induction actions generalizing engine start with
  | nil => cases listed
  | cons action rest inductionHypothesis =>
    rcases List.mem_append.1 listed with own | behind
    · rcases Option.bind_eq_some_iff.1 (Option.mem_toList.1 own) with ⟨state, found, changed⟩
      cases live.symm.trans (Live.state?_eq_some.1 found)
      rcases Option.map_eq_some_iff.1 changed with ⟨occupied, set, rfl⟩
      refine ⟨regular, ?_⟩
      have still : action.nanoseconds = 0 := by
        cases action with
        | advance span => cases set
        | _ => rfl
      rw [(now_of_run live regular after).2, movedBy, still, Int.zero_add]
    · have onward : ((engine.act action).run rest).live = .running reached := after
      rcases live_of_run onward with ⟨middle, between⟩
      have step : (engine.run [action]).live = .running middle := between
      exact inductionHypothesis between (now_of_run live regular step).1 onward behind

/-- Along every run of an engine that has been loaded whose clock is only moved forward: a track
circuit is occupied as the last change of its occupancy has left it, and keeps the clock
reading of this change, or none where there was no change.  Hence it is occupied for a number
of seconds exactly if it is occupied and the clock reads so many whole seconds later than at
the last change; and if the clock has not started in a leap second, exactly if it is occupied
and the clock has been moved by so many full seconds since. -/
theorem occupancy_is_timed {data : PlantData} {config : EngineConfig} {now : Timestamp}
    (loaded : (load data config now).2 = .ok engine)
    (forward : ∀ span, .advance span ∈ actions → 0 ≤ span.nanoseconds) {state : State}
    (reached : (engine.run actions).live = .running state)
    (track : engine.box.plant.kind id = .ok .trackCircuit) :
    ∃ circuit, state.track id = .ok circuit ∧
      circuit.changedAt = (engine.occupancyChanges id actions).getLast?.map OccupancyChange.clock ∧
      circuit.occupied =
        (engine.occupancyChanges id actions).getLast?.any OccupancyChange.occupied ∧
      circuit.occupiedFor state.now none = circuit.occupied ∧
      ∀ seconds : Notation.Seconds,
        (circuit.occupiedFor state.now (some seconds) = true ↔ circuit.occupied = true ∧
          ∃ change, (engine.occupancyChanges id actions).getLast? = some change ∧
            (seconds.toNat : Int) ≤ Timestamp.wholeSeconds change.clock state.now) ∧
        (now.inLeapSecond = false →
          (circuit.occupiedFor state.now (some seconds) = true ↔ circuit.occupied = true ∧
            ∃ change, (engine.occupancyChanges id actions).getLast? = some change ∧
              (seconds.toNat : Int) * Time.perSecond ≤ movedBy change.later)) := by
  rcases load_eq_ok loaded with ⟨plant, locks, network, database, _, _, _, built⟩
  have live : engine.live = .running (State.initial plant now) := by rw [built]
  rw [built] at track
  have consistent := PlantData.consistent_of_buildDatabase database
  have known : Succeeds ((State.initial plant now).track id) :=
    State.entry_succeeds.2 ((State.mem_tracks_initial consistent).2 track)
  rcases known with ⟨first, entered⟩
  have clear : first = {} := State.eq_of_entry_uniform entered
  subst clear
  rcases stamp_of_run live reached entered with ⟨circuit, found, stamped⟩
  refine ⟨circuit, found, ?_⟩
  -- The clock readings of the last change and of the state, for the last of the four parts.
  have moved : ∀ change, (engine.occupancyChanges id actions).getLast? = some change →
      now.inLeapSecond = false → ∀ seconds : Int,
        seconds ≤ Timestamp.wholeSeconds change.clock state.now ↔
          seconds * Time.perSecond ≤ movedBy change.later := by
    intro change last regular seconds
    have listed := List.mem_of_getLast? last
    rcases clock_of_change live regular reached listed with ⟨regularThen, ahead⟩
    refine Timestamp.le_wholeSeconds_iff regularThen (now_of_run live regular reached).1 ?_ ahead
    exact movedBy_nonneg fun span member => forward span (later_subset listed member)
  generalize (engine.occupancyChanges id actions).getLast? = last at stamped moved ⊢
  cases last with
  | none =>
    rcases Prod.mk.inj stamped with ⟨occupied, changedAt⟩
    change circuit.occupied = false at occupied
    simp [TrackState.occupiedFor, occupied, changedAt]
  | some change =>
    rcases Prod.mk.inj stamped with ⟨occupied, changedAt⟩
    have timed : ∀ seconds : Notation.Seconds,
        circuit.occupiedFor state.now (some seconds) = true ↔ circuit.occupied = true ∧
          (seconds.toNat : Int) ≤ Timestamp.wholeSeconds change.clock state.now := by
      intro seconds
      simp [TrackState.occupiedFor, changedAt]
    refine ⟨changedAt, occupied, ?_, fun seconds => ⟨?_, fun regular => ?_⟩⟩
    · simp [TrackState.occupiedFor]
    · simp [timed]
    · simp [timed, moved change rfl regular]

/-- A track circuit is occupied, and five seconds pass, the last nanosecond by itself.  Meanwhile it
is reported as occupied once more. -/
def occupying : List Action :=
  [.mutate (.track 30 true), .advance ⟨4, 999999999, by decide, by decide⟩,
    .mutate (.track 30 true), .cycle, .advance ⟨0, 1, by decide, by decide⟩]

/-- The second report does not restart the timer: the track circuit has been occupied for five
seconds, and not yet for six. -/
theorem second_report_keeps_the_timer :
    ∃ engine state circuit, (load .crossing {} default).2 = .ok engine ∧
      (engine.run occupying).live = .running state ∧ state.track 30 = .ok circuit ∧
      circuit.occupiedFor state.now (some 5) = true ∧
      circuit.occupiedFor state.now (some 6) = false ∧
      ∃ change, (engine.occupancyChanges 30 occupying).getLast? = some change ∧
        5 * Time.perSecond ≤ movedBy change.later ∧ ¬ 6 * Time.perSecond ≤ movedBy change.later := by
  have checked : (load .crossing {} default).2.toOption.any (fun engine =>
      decide (engine.box.plant.kind 30 = .ok .trackCircuit) &&
      (engine.run occupying).live.state?.any fun state =>
        (state.track 30).toOption.any fun circuit =>
          circuit.occupiedFor state.now (some 5) && !circuit.occupiedFor state.now (some 6)) =
      true := by
    decide +kernel
  rcases Fallible.exists_of_any checked with ⟨engine, loaded, found⟩
  rw [Bool.and_eq_true, decide_eq_true_eq, Option.any_eq_true] at found
  rcases found with ⟨track, state, live, looked⟩
  rcases Fallible.exists_of_any looked with ⟨circuit, entered, occupied⟩
  rw [Bool.and_eq_true, Bool.not_eq_true'] at occupied
  have reached := Live.state?_eq_some.1 live
  have forward : ∀ span, .advance span ∈ occupying → 0 ≤ span.nanoseconds := by
    intro span member
    simp only [occupying, List.mem_cons, List.not_mem_nil, or_false, reduceCtorEq, false_or,
      Action.advance.injEq] at member
    rcases member with rfl | rfl <;> decide
  rcases occupancy_is_timed loaded forward reached track with ⟨same, found, _, _, _, timed⟩
  cases entered.symm.trans found
  rcases (((timed 5).2 rfl).1 occupied.1).2 with ⟨change, last, long⟩
  refine ⟨engine, state, circuit, loaded, reached, entered, occupied.1, occupied.2, change, last,
    long, fun longer => ?_⟩
  have still := ((timed 6).2 rfl).2 ⟨(((timed 5).2 rfl).1 occupied.1).1, change, last, longer⟩
  cases occupied.2.symm.trans still

end Engine

end SignalBox
