import SignalBox.Proofs.LeverFindings
import SignalBox.Proofs.Predicates
import SignalBox.Proofs.SideBySide

namespace SignalBox

/-!
# Central control and station control

A route is under central control while the CHR relay of its central-control lever is raised.
It then follows what central control asks for, and nothing that is worked at the station.  At
all other times it is the other way round: what central control asks for is not looked at.

Routes look at each other's relays all through a cycle, so both are statements about the box
as a whole.
-/

open Fallible (Alike)

/-- Relays that differ at most in what central control asks for. -/
def RouteRelays.SameBesideCtc (first second : RouteRelays) : Prop :=
  ∃ ctc, second = { first with ctc }

/-- A test that does not look at what central control asks for finds the same among alike
relays. -/
theorem RouteRelays.any_eq {found others : List RouteRelays} (test : RouteRelays → Bool)
    (blind : ∀ relays ctc, test { relays with ctc } = test relays)
    (alike : List.Forall₂ SameBesideCtc found others) : found.any test = others.any test := by
  induction alike with
  | nil => rfl
  | cons related _ inductionHypothesis =>
    rcases related with ⟨ctc, rfl⟩
    rw [List.any_cons, List.any_cons, inductionHypothesis]
    exact congrArg (· || _) (blind _ ctc).symm

/-- Two states that differ at most in what central control asks for of routes that are not under
central control. -/
structure State.SameBesideCtc (box : Interlocking) (first second : State) : Prop where
  rest : second = { first with routes := second.routes }
  relays : ∀ id,
    Option.Rel RouteRelays.SameBesideCtc (first.routes.get? id) (second.routes.get? id)
  central : ∀ id definition, box.plant.route? id = some definition →
    Interlocking.isCentral first definition = .ok true →
      first.routes.get? id = second.routes.get? id

namespace State.SameBesideCtc

variable {box : Interlocking} {first second : State} (same : SameBesideCtc box first second)
include same

theorem route_alike (id : ObjectId) :
    Alike (fun current other => current.SameBesideCtc other ∧
        ∀ definition, box.plant.route? id = some definition →
          Interlocking.isCentral first definition = .ok true → current = other)
      (first.route id) (second.route id) := by
  refine State.entry_alike ?_
  have related := same.relays id
  have agreed := same.central id
  generalize first.routes.get? id = before, second.routes.get? id = after at related agreed
  cases related with
  | none => exact .none
  | some related =>
    exact .some ⟨related, fun definition defined handed =>
      Option.some.inj (agreed definition defined handed)⟩

/-- An answer that does not depend on what central control asks for is the same in both
states. -/
theorem route_answer {β : Type} (id : ObjectId) (answer : Except Missing RouteRelays → β)
    (blind : ∀ relays ctc, answer (.ok { relays with ctc }) = answer (.ok relays)) :
    answer (first.route id) = answer (second.route id) := by
  have alike := same.route_alike id
  generalize first.route id = before, second.route id = after at alike
  cases alike with
  | failed missing => rfl
  | found related =>
    rcases related with ⟨⟨ctc, rfl⟩, _⟩
    exact (blind _ ctc).symm

theorem sameLocks : SameLocks first second where
  now := by rw [same.rest]
  track id := by
    rw [same.rest]
    rfl
  listed id := by
    have succeeds := (same.route_alike id).succeeds_iff
    rw [route, route, entry_succeeds, entry_succeeds] at succeeds
    exact succeeds
  lever id := by
    have alike := same.relays id
    unfold isRaised
    generalize first.routes.get? id = before, second.routes.get? id = after at alike
    cases alike with
    | none => rfl
    | some related =>
      rcases related with ⟨ctc, rfl⟩
      rfl

/-- What a stage records keeps states related: it is the same in both, and it is not what
central control asks for. -/
theorem record (change : RelayChange) :
    SameBesideCtc box (first.record change) (second.record change) where
  rest := by
    rw [same.rest]
    rfl
  relays id := by
    have alike := same.relays id
    simp only [State.record, Table.get?_modify]
    generalize first.routes.get? id = before, second.routes.get? id = after at alike
    cases alike with
    | none => exact .none
    | some related =>
      rcases related with ⟨ctc, rfl⟩
      refine .some ?_
      by_cases own : id = change.route
      · simp only [own, if_true]
        exact ⟨ctc, by cases change.relay <;> rfl⟩
      · simp only [own, if_false]
        exact ⟨ctc, rfl⟩
  central id definition defined handed := by
    simp only [State.record, Table.get?_modify, same.central id definition defined handed]

section Stages

variable {id : ObjectId} {definition : RouteDefinition} {current : RouteRelays}

theorem controllers_eq (kind : ThrowOutKind) :
    box.controllers first kind id = box.controllers second kind id := by
  rw [same.rest]
  rfl

theorem request_eq (ctc unlocked : Bool) :
    box.request first id definition current unlocked =
      box.request second id definition { current with ctc } unlocked := by
  unfold Interlocking.request
  cases definition.lever with
  | some lever =>
    rw [same.rest]
    rfl
  | none =>
    have raised : ∀ source, (first.route source).map RouteRelays.lever =
        (second.route source).map RouteRelays.lever :=
      fun source => same.route_answer source (·.map RouteRelays.lever) fun _ _ => rfl
    simp only [Interlocking.throwOutX, same.controllers_eq, raised, same.sameLocks.track]

theorem isRequested_eq (source : ObjectId) :
    box.isRequested first source = box.isRequested second source := by
  refine bind_congr fun definition => ?_
  cases definition.lever with
  | some lever =>
    rw [same.rest]
    rfl
  | none =>
    exact same.route_answer source (· >>= fun relays => pure relays.throwOutX) fun _ _ => rfl

theorem isReleased_eq : box.isReleased first = box.isReleased second := by
  funext leaf
  refine bind_congr fun kind => ?_
  cases kind with
  | route => exact same.route_answer leaf.target (·.map RouteRelays.routeLock) fun _ _ => rfl
  | _ => rfl

theorem throwOutRelays_eq (ctc unlocked requested : Bool) (sources : List ObjectId) :
    box.throwOutRelays first id current sources unlocked requested =
      box.throwOutRelays second id { current with ctc } sources unlocked requested := by
  have asked : ∀ source (asked : Bool),
      (first.route source >>= fun relays => pure (asked, relays.lever)) =
        (second.route source >>= fun relays => pure (asked, relays.lever)) :=
    fun source asked => same.route_answer source (· >>= fun relays => pure (asked, relays.lever))
      fun _ _ => rfl
  have idle : ∀ source, (first.route source).map (fun relays =>
        !relays.routeLock && !relays.signalControl) =
      (second.route source).map fun relays => !relays.routeLock && !relays.signalControl :=
    fun source => same.route_answer source (·.map _) fun _ _ => rfl
  simp only [Interlocking.throwOutRelays, Interlocking.throwOutXr, Interlocking.throwOutYs,
    same.isRequested_eq, asked, same.isReleased_eq, idle, same.sameLocks.isTrackClear_eq]

/-- The lever relay of a route under station control does not depend on what central control
asks for of any route: what it asks for of the routes that are looked at is passed over. -/
theorem stationRelays_eq (ctc unlocked : Bool) :
    box.stationRelays first id definition current unlocked =
      box.stationRelays second id definition { current with ctc } unlocked := by
  have targets : box.controlled first id = box.controlled second id := by
    rw [same.rest]
    rfl
  have pressed : Interlocking.isPressed first definition =
      Interlocking.isPressed second definition := by
    rw [same.rest]
    rfl
  rw [Interlocking.stationRelays_eq, Interlocking.stationRelays_eq, ← same.request_eq,
    same.controllers_eq, targets, pressed]
  refine bind_congr fun request => bind_congr fun sources => bind_congr fun targets => ?_
  rw [← same.throwOutRelays_eq]
  refine bind_congr fun held => bind_congr fun button => ?_
  -- Whole relays of other routes are fetched here, and they may differ.  The tests of them do not.
  refine ((Alike.mapM fun target _ => (same.route_alike target).mono fun _ _ related =>
    related.1).bind fun found others alike => ?_).eq
  rw [RouteRelays.any_eq RouteRelays.throwOutXr (fun _ _ => rfl) alike,
    RouteRelays.any_eq (fun relays => relays.lever && relays.throwOutXr) (fun _ _ => rfl) alike]
  exact .found rfl

/-- A route is given the same relays in both states: under central control it is asked for the
same, and under station control it does not matter. -/
theorem leverRelays_eq {other : RouteRelays} (related : current.SameBesideCtc other)
    (agreed : ∀ definition, box.plant.route? id = some definition →
      Interlocking.isCentral first definition = .ok true → current = other) :
    box.leverRelays first id current = box.leverRelays second id other := by
  have control : Interlocking.isCentral first = Interlocking.isCentral second := by
    rw [same.rest]
    rfl
  rcases related with ⟨ctc, rfl⟩
  unfold Interlocking.leverRelays
  rw [← control, same.sameLocks.isLocked?_eq]
  refine (Alike.bind_same fun definition defined => Alike.bind_same fun locked _ =>
    Alike.bind_same fun central known => ?_).eq
  cases central with
  | true =>
    have whole := agreed definition (Database.definition_eq_ok.1 defined) known
    exact .found (by rw [congrArg RouteRelays.ctc whole])
  | false => exact .of_eq (fun _ => rfl) (same.stationRelays_eq ctc _)

theorem isUnlocked_eq : box.isUnlocked first = box.isUnlocked second := by
  funext leaf
  refine bind_congr fun kind => ?_
  cases kind with
  | route =>
    exact same.route_answer leaf.target (· >>= fun relays => pure !relays.route) fun _ _ => rfl
  | _ =>
    rw [same.rest]
    rfl

theorem isSignalClear_eq : box.isSignalClear first = box.isSignalClear second := by
  funext leaf
  refine bind_congr fun kind => ?_
  cases kind with
  | route =>
    exact same.route_answer leaf.target (· >>= fun relays => pure !relays.lever) fun _ _ => rfl
  | trackCircuit | directionRoute =>
    rw [same.rest]
    rfl
  | _ => rfl

theorem isRouteReady_eq : box.isRouteReady first = box.isRouteReady second := by
  rw [same.rest]
  rfl

/-- A stage gives a route relays that differ as little as the relays it had. -/
theorem next_alike {other : RouteRelays} (stage : Stage) (related : current.SameBesideCtc other)
    (agreed : ∀ definition, box.plant.route? id = some definition →
      Interlocking.isCentral first definition = .ok true → current = other) :
    Alike RouteRelays.SameBesideCtc (stage.next box first id current)
      (stage.next box second id other) := by
  have found := same.leverRelays_eq related agreed
  rcases related with ⟨ctc, rfl⟩
  cases stage with
  | lever =>
    rw [Stage.next, Stage.next, found]
    exact .map_same fun relays => ⟨ctc, rfl⟩
  | route =>
    rw [Stage.next, Stage.next, same.isUnlocked_eq, same.isRouteReady_eq,
      same.sameLocks.isLocked?_eq]
    exact Alike.bind_same fun unlocked _ => Alike.bind_same fun ready _ =>
      Alike.bind_same fun locked _ => .found ⟨ctc, rfl⟩
  | signalControl =>
    rw [Stage.next, Stage.next, same.isSignalClear_eq, same.sameLocks.isLocked?_eq]
    exact Alike.bind_same fun clear _ => Alike.bind_same fun locked _ => .found ⟨ctc, rfl⟩

/-- Every stage finds the same changes in both states. -/
theorem changes_eq (stage : Stage) (routes : List ObjectId) :
    stage.changes box routes first = stage.changes box routes second := by
  unfold Stage.changes
  refine congrArg (Except.map List.flatten) (Fallible.mapM_congr fun id _ => ?_)
  rw [Stage.changesOf_eq, Stage.changesOf_eq]
  refine ((same.route_alike id).bind fun current other related => ?_).eq
  refine (same.next_alike stage related.1 related.2).bind fun relays others after => ?_
  rcases related.1 with ⟨before, rfl⟩
  rcases after with ⟨asked, rfl⟩
  refine .found ?_
  rw [RelayChange.differences_eq, RelayChange.differences_eq]
  rfl

end Stages

/-- A cycle gives the same report in both states, or fails with the same fault, and leaves states
that differ as little as they did before. -/
theorem sweep_alike :
    SameBesideCtc box (box.sweep first).1 (box.sweep second).1 ∧
      (box.sweep first).2 = (box.sweep second).2 := by
  have sameChanges : ∀ (stage : Stage) first second, SameBesideCtc box first second →
      stage.changes box box.plant.routeIds first = stage.changes box box.plant.routeIds second :=
    fun stage _ _ same => same.changes_eq stage _
  have recorded : ∀ first second change, SameBesideCtc box first second →
      SameBesideCtc box (first.record change) (second.record change) :=
    fun _ _ change same => same.record change
  rcases Stage.performAll_congr sameChanges recorded Stage.order same with ⟨related, found⟩
  exact ⟨related, congrArg (Except.map SweepReport.mk) found⟩

end State.SameBesideCtc

/-- Clients set what central control asks for whether or not the route is under it.  Where it is
not, the state stays as it was for a cycle. -/
theorem State.sameBesideCtc_of_mutate {box : Interlocking} {state changed : State} {id : ObjectId}
    {raised : Bool} (mutated : state.mutate (.ctc id raised) = .ok changed)
    (station : ∀ definition, box.plant.route? id = some definition →
      Interlocking.isCentral state definition ≠ .ok true) :
    SameBesideCtc box state changed := by
  rcases Mutation.mutate_eq_ok.1 mutated with ⟨_, rfl⟩
  dsimp only [Mutation.apply]
  refine ⟨rfl, fun other => ?_, fun other definition defined handed => ?_⟩
  · rw [Table.get?_modify]
    cases state.routes.get? other with
    | none => exact .none
    | some relays =>
      refine .some ?_
      by_cases own : other = id
      · exact ⟨raised, if_pos own⟩
      · exact ⟨relays.ctc, if_neg own⟩
  · have foreign : other ≠ id := by
      rintro rfl
      exact station definition defined handed
    simp [Table.get?_modify, foreign]

namespace Interlocking

variable {box : Interlocking} {id : ObjectId} {definition : RouteDefinition}

/-- Under central control the lever stage drops the three throw-out relays of a route, and gives
it the lever relay that central control asks for, unless its direct lock locks. -/
theorem route_of_central {state reached : State} {found : List RelayChange}
    (performed : Stage.lever.perform box box.plant.routeIds state = (reached, .ok found))
    (defined : box.plant.route? id = some definition)
    (handed : isCentral state definition = .ok true) :
    ∃ current locked, state.route id = .ok current ∧
      box.isLocked? state (box.locks.clause? id .directLock) = .ok locked ∧
      reached.route id = .ok { current with
        throwOutX := false, throwOutXr := false, throwOutYs := false,
        lever := !locked && current.ctc } := by
  rcases (Stage.effect_of_perform performed).written id
    (Database.mem_routeIds_of_route? defined) with ⟨current, relays, entered, given, after⟩
  rcases Stage.next_lever_eq_ok.1 given with ⟨findings, computed, rfl⟩
  cases (leverRelays_eq_ok_iff defined).1 computed with
  | @central locked _ lock => exact ⟨current, locked, entered, lock, after⟩
  | station kept => cases handed.symm.trans kept

/-- The two ways of control do not interfere, in whatever states a cycle starts.  What central
control asks for of routes that are not under it makes no difference to a cycle: it finds the
same or fails alike.  And what is worked at the station makes no difference to a route under
central control: it gets the same lever relay, and its throw-out relays are dropped, as long as
the clock, the track circuits, the lever relays and what central control asks for of it are
the same. -/
theorem control_modes_do_not_interfere (box : Interlocking) :
    (∀ first second, State.SameBesideCtc box first second →
      (box.sweep first).2 = (box.sweep second).2) ∧
    ∀ first second id definition, box.plant.route? id = some definition →
      isCentral first definition = .ok true → isCentral second definition = .ok true →
      State.SameLocks first second →
      (first.routes.get? id).map RouteRelays.ctc = (second.routes.get? id).map RouteRelays.ctc →
      ∀ reached found, Stage.lever.perform box box.plant.routeIds first = (reached, .ok found) →
      ∀ other others, Stage.lever.perform box box.plant.routeIds second = (other, .ok others) →
        reached.isRaised .lever id = other.isRaised .lever id ∧
        ∀ relay, relay ∈ [Relay.throwOutX, .throwOutXr, .throwOutYs] →
          reached.isRaised relay id = false ∧ other.isRaised relay id = false := by
  refine ⟨fun first second same => same.sweep_alike.2, ?_⟩
  intro first second id definition defined handed handedOther same asked reached found performed
    other others performedOther
  rcases route_of_central performed defined handed with ⟨current, locked, entered, lock, after⟩
  rcases route_of_central performedOther defined handedOther with
    ⟨currentOther, lockedOther, enteredOther, lockOther, afterOther⟩
  have sameLock : locked = lockedOther := by
    rw [same.isLocked?_eq, lockOther] at lock
    exact (Except.ok.inj lock).symm
  have sameAsk : current.ctc = currentOther.ctc := by
    rw [State.entry_eq_ok.1 entered, State.entry_eq_ok.1 enteredOther] at asked
    exact Option.some.inj asked
  simp only [State.isRaised_of_route after, State.isRaised_of_route afterOther]
  refine ⟨?_, fun relay throwOut => ?_⟩
  · simp only [Relay.get, sameLock, sameAsk]
  · cases relay <;> simp [Relay.get] at throwOut ⊢

/-- A box of two routes, of which the first has a central-control lever and a control over the
second one. -/
def steered : Interlocking where
  plant := {
    objects := [⟨1, "TH71_1", .lever, "TH71"⟩, ⟨2, "TH71_2", .lever, "TH71"⟩,
      ⟨3, "TH71_CTC", .routeCentralControlLever, "TH71"⟩, ⟨10, "TH71_1R", .route, "TH71"⟩,
      ⟨11, "TH71_2L", .route, "TH71"⟩, ⟨30, "TH71_3T", .trackCircuit, "TH71"⟩]
    definitions := [{ id := 10, lever := some 1, centralControlLever := some 3 },
      { id := 11, lever := some 2 }]
    throwOuts := [{ source := 10, target := 11 }] }
  locks := LockTable.insert {} 10 .directLock (.leaf { target := 30 })

/-- The first route is under central control, which asks for it.  The lever of the second one has
been thrown. -/
def steeredAsked : State :=
  { State.initial steered.plant default with
    routes := Table.ofList [(10, { ctc := true }), (11, {})]
    levers := Table.ofList [(1, .center), (2, .right)]
    chrRelays := Table.ofList [(3, true)] }

/-- The levers have been changed over. -/
def steeredWorked : State :=
  { steeredAsked with levers := Table.ofList [(1, .right), (2, .center)] }

/-- Asking for the second route as well changes nothing, and neither does the changing over of the
levers for the first one. -/
theorem steered_routes_follow_their_control :
    ∃ asked report, steeredAsked.mutate (.ctc 11 true) = .ok asked ∧ asked ≠ steeredAsked ∧
      (steered.sweep steeredAsked).2 = .ok report ∧ (steered.sweep asked).2 = .ok report ∧
      ∃ reached found other others,
        Stage.lever.perform steered steered.plant.routeIds steeredAsked = (reached, .ok found) ∧
        Stage.lever.perform steered steered.plant.routeIds steeredWorked = (other, .ok others) ∧
        reached.isRaised .lever 10 = true ∧ other.isRaised .lever 10 = true ∧
        other.isRaised .throwOutX 10 = false := by
  have changed : (steeredAsked.mutate (.ctc 11 true)).toOption.any
      (fun asked => decide (asked ≠ steeredAsked)) = true := by decide +kernel
  rcases Fallible.exists_of_any changed with ⟨asked, mutated, different⟩
  have swept : Succeeds (steered.sweep steeredAsked).2 := Fallible.isOk_iff.1 (by decide +kernel)
  have performed : Succeeds
      (Stage.lever.perform steered steered.plant.routeIds steeredAsked).2 :=
    Fallible.isOk_iff.1 (by decide +kernel)
  have performedOther : Succeeds
      (Stage.lever.perform steered steered.plant.routeIds steeredWorked).2 :=
    Fallible.isOk_iff.1 (by decide +kernel)
  have raised : (Stage.lever.perform steered steered.plant.routeIds steeredAsked).1.isRaised
      .lever 10 = true := by decide +kernel
  rcases swept with ⟨report, reported⟩
  rcases performed with ⟨found, done⟩
  rcases performedOther with ⟨others, doneOther⟩
  have station : ∀ definition, steered.plant.route? 11 = some definition →
      isCentral steeredAsked definition ≠ .ok true := by
    intro definition defined
    cases (by decide : steered.plant.route? 11 = some { id := 11, lever := some 2 }).symm.trans
      defined
    nofun
  rcases control_modes_do_not_interfere steered with ⟨blind, apart⟩
  have reportedOther := (blind steeredAsked asked
    (State.sameBesideCtc_of_mutate mutated station)).symm.trans reported
  have same : State.SameLocks steeredAsked steeredWorked :=
    ⟨rfl, fun _ => rfl, fun _ => .rfl, fun _ => rfl⟩
  rcases apart steeredAsked steeredWorked 10
    { id := 10, lever := some 1, centralControlLever := some 3 } (by decide) (by decide) (by decide)
    same rfl _ found (Prod.ext rfl done) _ others (Prod.ext rfl doneOther) with ⟨lever, dropped⟩
  exact ⟨asked, report, mutated, of_decide_eq_true different, reported, reportedOther, _, found, _,
    others, Prod.ext rfl done, Prod.ext rfl doneOther, raised, lever ▸ raised,
    (dropped .throwOutX (by decide)).2⟩

end Interlocking

end SignalBox
