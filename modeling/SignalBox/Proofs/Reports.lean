import SignalBox.Proofs.FailedCycles

namespace SignalBox

/-!
# Reports of cycles

The report of a cycle joins the changes of three stages, each found in another state.  No
relay belongs to two stages, so every relay that a stage writes has its first value until
then and its last value from then on.  The report is therefore the difference of the states
before and after the cycle, with every relay named at most once.

The order of a report is the order of `RelayChange.Precedes`, in which no two changes of the
same relay of a route can stand.
-/

namespace RelayChange

/-- The order of a report.  Earlier stages come first, within a stage smaller routes, and
within a route the relays in the order in which a stage names them. -/
inductive Precedes (first second : RelayChange) : Prop
  | stage (earlier : Stage.order.idxOf first.relay.stage < Stage.order.idxOf second.relay.stage)
  | route (sameStage : first.relay.stage = second.relay.stage) (less : first.route < second.route)
  | relay (sameStage : first.relay.stage = second.relay.stage)
      (sameRoute : first.route = second.route)
      (earlier : order.idxOf first.relay < order.idxOf second.relay)

/-- What stands before another change is not of the same relay. -/
theorem Precedes.differ {first second : RelayChange} (precedes : first.Precedes second) :
    (first.route, first.relay) ≠ (second.route, second.relay) := by
  intro same
  rcases Prod.mk.inj same with ⟨sameRoute, sameRelay⟩
  cases precedes with
  | stage earlier => exact Nat.lt_irrefl _ (sameRelay ▸ earlier)
  | route _ less => exact Nat.lt_irrefl _ (sameRoute ▸ less)
  | relay _ _ earlier => exact Nat.lt_irrefl _ (sameRelay ▸ earlier)

section Differences

variable {stage : Stage} {route : ObjectId} {current next : RouteRelays}
  (kept : ∀ relay : Relay, relay.stage ≠ stage → relay.get next = relay.get current)
include kept

/-- Where only relays of one stage differ, the changes are of this stage. -/
theorem stage_of_mem_differences {change : RelayChange}
    (listed : change ∈ differences route current next) : change.relay.stage = stage :=
  Decidable.byContradiction fun other =>
    (mem_differences.1 listed).2.2 (kept change.relay other).symm

/-- The changes of one route that belong to one stage are in order. -/
theorem pairwise_differences : (differences route current next).Pairwise Precedes := by
  have single : ∀ {relay change}, change ∈ between route current relay (relay.get next) →
      change.relay = relay := by
    intro relay change listed
    unfold between at listed
    split at listed
    · cases listed
    · rw [List.mem_singleton.1 listed]
  have ordered : (differences route current next).Pairwise fun first second =>
      order.idxOf first.relay < order.idxOf second.relay := by
    have names : order.Pairwise fun first second => order.idxOf first < order.idxOf second := by
      decide
    refine List.pairwise_flatMap.2 ⟨fun relay _ => ?_, names.imp fun earlier first firstListed
      second secondListed => ?_⟩
    · unfold between
      split
      · exact List.Pairwise.nil
      · exact List.pairwise_singleton _ _
    · rw [single firstListed, single secondListed]
      exact earlier
  refine ordered.imp_of_mem fun firstListed secondListed earlier => ?_
  have firstStage := stage_of_mem_differences kept firstListed
  have secondStage := stage_of_mem_differences kept secondListed
  have firstRoute := (mem_differences.1 firstListed).1
  have secondRoute := (mem_differences.1 secondListed).1
  exact .relay (firstStage.trans secondStage.symm) (firstRoute.trans secondRoute.symm) earlier

end Differences

end RelayChange

namespace Stage

variable {box : Interlocking} {state reached final : State}

/-! ## The changes of one stage -/

section Changes

variable {stage : Stage} {routes : List ObjectId} {found : List RelayChange}

/-- The changes of a stage are those relays of the stage that its effect leaves with another
value. -/
theorem mem_changes_iff (computed : stage.changes box routes state = .ok found)
    (effect : Effect stage box routes state reached) {change : RelayChange} :
    change ∈ found ↔ change.relay.stage = stage ∧ change.route ∈ routes ∧
      state.isRaised change.relay change.route ≠ change.raised ∧
      reached.isRaised change.relay change.route = change.raised := by
  rw [mem_changes computed]
  constructor
  · rintro ⟨id, visited, current, relays, entry, given, member⟩
    rcases RelayChange.mem_differences.1 member with ⟨rfl, value, different⟩
    rcases effect.written _ visited with ⟨current, relays, sameEntry, sameGiven, after⟩
    cases entry.symm.trans sameEntry
    cases given.symm.trans sameGiven
    rw [State.isRaised_of_route entry, State.isRaised_of_route after, value]
    exact ⟨RelayChange.stage_of_mem_differences (next_keeps given).1 member, visited, different,
      rfl⟩
  · rintro ⟨_, visited, before, now⟩
    rcases effect.written _ visited with ⟨current, relays, entry, given, after⟩
    rw [State.isRaised_of_route entry] at before
    rw [State.isRaised_of_route after] at now
    exact ⟨_, visited, current, relays, entry, given,
      RelayChange.mem_differences.2 ⟨rfl, now.symm, now.symm ▸ before⟩⟩

/-- The changes of a stage are in the order of its routes. -/
theorem pairwise_changes (computed : stage.changes box routes state = .ok found)
    (ascending : routes.Pairwise (· < ·)) : found.Pairwise RelayChange.Precedes := by
  rcases Fallible.map_eq_ok.1 computed with ⟨lists, traversed, rfl⟩
  have own : ∀ {id list}, stage.changesOf box state id = .ok list →
      list.Pairwise RelayChange.Precedes ∧
        ∀ change, change ∈ list → change.route = id ∧ change.relay.stage = stage := by
    intro id list listed
    rcases changesOf_eq_ok.1 listed with ⟨current, relays, _, given, rfl⟩
    have kept := (next_keeps given).1
    exact ⟨RelayChange.pairwise_differences kept, fun change member =>
      ⟨(RelayChange.mem_differences.1 member).1,
        RelayChange.stage_of_mem_differences kept member⟩⟩
  refine List.pairwise_flatten.2 ⟨fun list listed => ?_, ?_⟩
  · rcases Fallible.exists_of_mem_mapM traversed listed with ⟨id, _, same⟩
    exact (own same).1
  · refine Fallible.pairwise_of_mapM traversed ascending
      fun id other list next less same sameNext first firstListed second secondListed => ?_
    rcases (own same).2 first firstListed with ⟨rfl, firstStage⟩
    rcases (own sameNext).2 second secondListed with ⟨rfl, secondStage⟩
    exact .route (firstStage.trans secondStage.symm) less

end Changes

/-! ## The changes of a run -/

namespace Runs

variable {routes : Stage → List ObjectId} {stages : List Stage} {changes : List RelayChange}

/-- A run in which no stage is repeated finds exactly the relays that it leaves with another
value.  A relay of one of its stages has its first value until that stage and its last value
behind it. -/
theorem mem_changes_iff (run : Runs box routes state stages changes final)
    (once : stages.Nodup) {change : RelayChange} :
    change ∈ changes ↔ change.relay.stage ∈ stages ∧ change.route ∈ routes change.relay.stage ∧
      state.isRaised change.relay change.route ≠ change.raised ∧
      final.isRaised change.relay change.route = change.raised := by
  induction run with
  | done state => simp
  | @next state between final stage later found others computed written rest
      inductionHypothesis =>
    have effect := effect_of_commit computed written
    rcases List.nodup_cons.1 once with ⟨fresh, onceLater⟩
    rw [List.mem_append, Stage.mem_changes_iff computed effect, inductionHypothesis onceLater]
    by_cases own : change.relay.stage = stage
    · have absent : change.relay.stage ∉ later := own ▸ fresh
      rw [rest.isRaised_eq absent, own]
      simp [fresh]
    · rw [effect.isRaised_eq change.relay own]
      simp [own]

/-- The changes of a run are in order if its stages and their routes are. -/
theorem pairwise_changes (run : Runs box routes state stages changes final)
    (ordered : stages.Pairwise fun first second => order.idxOf first < order.idxOf second)
    (ascending : ∀ stage, (routes stage).Pairwise (· < ·)) :
    changes.Pairwise RelayChange.Precedes := by
  induction run with
  | done state => exact List.Pairwise.nil
  | @next state between final stage later found others computed written rest
      inductionHypothesis =>
    rcases List.pairwise_cons.1 ordered with ⟨before, orderedLater⟩
    refine List.pairwise_append.2 ⟨Stage.pairwise_changes computed (ascending stage),
      inductionHypothesis orderedLater, fun first firstFound second secondFound => ?_⟩
    have onceLater : later.Nodup := orderedLater.imp fun less same => by
      rw [same] at less
      exact Nat.lt_irrefl _ less
    have firstStage := ((Stage.mem_changes_iff computed
      (effect_of_commit computed written)).1 firstFound).1
    have secondStage := ((rest.mem_changes_iff onceLater).1 secondFound).1
    exact .stage (firstStage ▸ before _ secondStage)

/-- A run that finds nothing ends where it started. -/
theorem eq_of_no_changes (run : Runs box routes state stages changes final)
    (none : changes = []) : final = state := by
  induction run with
  | done state => rfl
  | next _ written _ inductionHypothesis =>
    rcases List.append_eq_nil_iff.1 none with ⟨rfl, laterNone⟩
    rw [inductionHypothesis laterNone]
    cases written
    rfl

end Runs

end Stage

namespace Interlocking

variable {box : Interlocking} {state final : State} {report : SweepReport}

/-! ## Reports of cycles -/

/-- Every defined route has an entry before and after a successful cycle. -/
theorem entries_of_sweep (swept : box.sweep state = (final, .ok report)) {id : ObjectId}
    (defined : id ∈ box.plant.routeIds) :
    ∃ before after, state.route id = .ok before ∧ final.route id = .ok after := by
  rcases effects_of_sweep swept with ⟨first, second, lever, _, signal⟩
  rcases lever.written id defined with ⟨before, _, entry, _, _⟩
  rcases signal.written id defined with ⟨_, after, _, _, written⟩
  exact ⟨before, after, entry, written⟩

theorem mem_report_iff (swept : box.sweep state = (final, .ok report)) {change : RelayChange} :
    change ∈ report.changes ↔ change.route ∈ box.plant.routeIds ∧
      state.isRaised change.relay change.route ≠ change.raised ∧
      final.isRaised change.relay change.route = change.raised := by
  have everyStage : change.relay.stage ∈ Stage.order := by
    cases change.relay.stage <;> decide
  rw [(sweep_eq_ok.1 swept).mem_changes_iff (by decide)]
  simp [everyStage]

/-- The report of a successful cycle lists, for the defined routes, exactly the relays that
have another value after it, each with this value.  None is listed twice, the changes are in
order, everything beside these relays is as it was, and the report is empty just when the
state has not changed. -/
theorem reports_are_differences (swept : box.sweep state = (final, .ok report)) :
    (∀ id, id ∈ box.plant.routeIds → ∃ before after,
        state.route id = .ok before ∧ final.route id = .ok after ∧
          ∀ relay raised, (⟨id, relay, raised⟩ : RelayChange) ∈ report.changes ↔
            Relay.get before relay ≠ Relay.get after relay ∧ raised = Relay.get after relay) ∧
      (∀ change, change ∈ report.changes → change.route ∈ box.plant.routeIds) ∧
      (report.changes.map fun change => (change.route, change.relay)).Nodup ∧
      report.changes.Pairwise RelayChange.Precedes ∧
      State.SameBesideRelays box.plant.routeIds state final ∧
      (report.isQuiescent = true ↔ final = state) := by
  have ordered : report.changes.Pairwise RelayChange.Precedes :=
    (sweep_eq_ok.1 swept).pairwise_changes (by decide) fun _ => Ascending.pairwise_ofList _
  have same := sweep_sameBesideRelays box state
  rw [swept] at same
  refine ⟨fun id defined => ?_, fun change listed => ((mem_report_iff swept).1 listed).1,
    List.pairwise_map.2 (ordered.imp RelayChange.Precedes.differ), ordered, same, ?_⟩
  · rcases entries_of_sweep swept defined with ⟨before, after, entry, written⟩
    refine ⟨before, after, entry, written, fun relay raised => ?_⟩
    rw [mem_report_iff swept]
    dsimp only
    rw [State.isRaised_of_route entry, State.isRaised_of_route written]
    constructor
    · rintro ⟨_, different, rfl⟩
      exact ⟨different, rfl⟩
    · rintro ⟨different, rfl⟩
      exact ⟨defined, different, rfl⟩
  · rw [SweepReport.isQuiescent, List.isEmpty_iff]
    constructor
    · exact (sweep_eq_ok.1 swept).eq_of_no_changes
    · rintro rfl
      refine List.eq_nil_iff_forall_not_mem.2 fun change listed => ?_
      rcases (mem_report_iff swept).1 listed with ⟨_, before, after⟩
      exact before after

theorem thrown_lever_is_reported :
    ∃ final report, single.sweep singleThrown = (final, .ok report) ∧
      (⟨10, .lever, true⟩ : RelayChange) ∈ report.changes ∧ report.isQuiescent = false := by
  have succeeded : Succeeds (single.sweep singleThrown).2 := Fallible.isOk_iff.1 (by decide)
  have before : singleThrown.isRaised .lever 10 = false := by decide
  have after : (single.sweep singleThrown).1.isRaised .lever 10 = true := by decide
  rcases succeeded with ⟨report, done⟩
  have swept : single.sweep singleThrown = ((single.sweep singleThrown).1, .ok report) :=
    Prod.ext rfl done
  rcases reports_are_differences swept with ⟨differences, _, _, _, _, quiescent⟩
  rcases differences 10 (by decide) with ⟨old, new, entry, written, listed⟩
  rw [State.isRaised_of_route entry] at before
  rw [State.isRaised_of_route written] at after
  refine ⟨_, report, swept, (listed .lever true).2 ⟨by rw [before, after]; decide, after.symm⟩, ?_⟩
  refine Bool.eq_false_iff.2 fun still => ?_
  have unchanged := congrArg (fun state => state.isRaised .lever 10) (quiescent.1 still)
  rw [State.isRaised_of_route entry, State.isRaised_of_route written, before, after] at unchanged
  cases unchanged

end Interlocking

end SignalBox
