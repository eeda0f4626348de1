import SignalBox.Proofs.LeverStage

namespace SignalBox

/-!
# What the lever stage finds for a route

Under central control a route gets its lever relay from central control alone.  Under station
control the lever stage looks at the request for the route, at the routes that control it and
at those that it controls.  `LeverFindings` says once what has been looked at in both cases and
what came of it.

Of the relays that controls raise, the XR relay is the one that decides whether a route has
been taken over, and the YS relay the one that stands in for its lever from then on.  The X
relay stands in for the lever of a route that has none.  `throwOutX_iff`,
`throwOutRelays_xr_iff` and `throwOutRelays_ys_iff` read their values off the state.
-/

namespace Interlocking

variable {box : Interlocking} {state : State} {id : ObjectId} {definition : RouteDefinition}
  {current : RouteRelays}

/-- The four relays that the lever stage finds for a route, with everything that it has looked
at for them. -/
inductive LeverFindings (box : Interlocking) (state : State) (id : ObjectId)
    (definition : RouteDefinition) (current : RouteRelays) : LeverRelays → Prop
  | central {locked : Bool} (handed : isCentral state definition = .ok true)
      (lock : box.isLocked? state (box.locks.clause? id .directLock) = .ok locked) :
      LeverFindings box state id definition current ⟨false, false, false, !locked && current.ctc⟩
  | station {locked requested button : Bool} {held : Bool × Bool} {x : Bool}
      {sources targets : List ObjectId} {downstream : List RouteRelays}
      (kept : isCentral state definition = .ok false)
      (lock : box.isLocked? state (box.locks.clause? id .directLock) = .ok locked)
      (request : box.request state id definition current (!locked) = .ok (x, requested))
      (given : box.controllers state .withLever id = .ok sources)
      (controlled : box.controlled state id = .ok targets)
      (throwOut : box.throwOutRelays state id current sources (!locked) requested = .ok held)
      (pressed : isPressed state definition = .ok button)
      (traversed : targets.mapM state.route = .ok downstream) :
      LeverFindings box state id definition current ⟨x, held.1, held.2, !locked &&
        ((!held.1 && !held.2 && requested) || held.2) &&
        (button || (current.lever && !downstream.any RouteRelays.throwOutXr) ||
          downstream.any fun relays => relays.lever && relays.throwOutXr)⟩

/-- The lever stage finds these relays and no others. -/
theorem leverRelays_eq_ok_iff (defined : box.plant.route? id = some definition)
    {found : LeverRelays} :
    box.leverRelays state id current = .ok found ↔
      LeverFindings box state id definition current found := by
  rw [leverRelays, Fallible.bind_of_eq_ok (Database.definition_eq_ok.2 defined)]
  constructor
  · intro given
    rcases Fallible.bind_eq_ok.1 given with ⟨locked, lock, afterLock⟩
    rcases Fallible.bind_eq_ok.1 afterLock with ⟨central, control, afterControl⟩
    cases central with
    | true =>
      cases afterControl
      exact .central control lock
    | false =>
      rw [if_neg Bool.false_ne_true, stationRelays_eq] at afterControl
      rcases Fallible.bind_eq_ok.1 afterControl with ⟨⟨x, requested⟩, request, afterRequest⟩
      rcases Fallible.bind_eq_ok.1 afterRequest with ⟨sources, own, afterSources⟩
      rcases Fallible.bind_eq_ok.1 afterSources with ⟨targets, controlled, afterTargets⟩
      rcases Fallible.bind_eq_ok.1 afterTargets with ⟨held, throwOut, afterHeld⟩
      rcases Fallible.bind_eq_ok.1 afterHeld with ⟨button, pressed, afterButton⟩
      rcases Fallible.bind_eq_ok.1 afterButton with ⟨downstream, traversed, same⟩
      cases same
      exact .station control lock request own controlled throwOut pressed traversed
  · intro findings
    cases findings with
    | central handed lock =>
      rw [Fallible.bind_of_eq_ok lock, Fallible.bind_of_eq_ok handed]
      rfl
    | station kept lock request own controlled throwOut pressed traversed =>
      rw [Fallible.bind_of_eq_ok lock, Fallible.bind_of_eq_ok kept, if_neg Bool.false_ne_true,
        stationRelays_eq, Fallible.bind_of_eq_ok request, Fallible.bind_of_eq_ok own,
        Fallible.bind_of_eq_ok controlled, Fallible.bind_of_eq_ok throwOut,
        Fallible.bind_of_eq_ok pressed, Fallible.bind_of_eq_ok traversed]
      rfl

/-- After a successful cycle the relays of a route that belong to the lever stage are those that
it has found in the state in which the cycle started. -/
theorem findings_of_sweep (defined : box.plant.route? id = some definition) {final : State}
    {report : SweepReport} (swept : box.sweep state = (final, .ok report)) :
    ∃ current found, state.route id = .ok current ∧
      LeverFindings box state id definition current found ∧
      final.isRaised .throwOutX id = found.x ∧ final.isRaised .throwOutXr id = found.xr ∧
      final.isRaised .throwOutYs id = found.ys ∧ final.isRaised .lever id = found.lever := by
  rcases effects_of_sweep swept with ⟨levers, routes, leverEffect, routeEffect, signalEffect⟩
  rcases leverEffect.written id (Database.mem_routeIds_of_route? defined) with
    ⟨current, relays, entered, given, written⟩
  rcases Stage.next_lever_eq_ok.1 given with ⟨found, computed, rfl⟩
  have after : ∀ relay : Relay, relay.stage = .lever →
      final.isRaised relay id = levers.isRaised relay id := by
    intro relay own
    rw [signalEffect.isRaised_eq relay (by rw [own]; decide),
      routeEffect.isRaised_eq relay (by rw [own]; decide)]
  refine ⟨current, found, entered, (leverRelays_eq_ok_iff defined).1 computed, ?_, ?_, ?_, ?_⟩
  all_goals
    rw [after _ rfl, State.isRaised_of_route written]
    rfl

/-! ## Relays raised by controllers -/

/-- A lever-less throw-out control that acts leads from one route to another. -/
def Feeds (box : Interlocking) (state : State) (source target : ObjectId) : Prop :=
  ∃ control, control ∈ box.plant.throwOuts ∧ control.target = target ∧
    control.kind = .withoutLever ∧ control.source = source ∧
    box.plant.kind source = .ok .route ∧ isActive state control = .ok true

/-- The final track circuit of the approach of the route, if it has one, is not held. -/
def HasFreeTrack (box : Interlocking) (id : ObjectId) (state : State) : Prop :=
  ∀ track, box.locks.finalTrack? id = some track →
    ∃ circuit, state.track track = .ok circuit ∧ circuit.locked = false

/-- Every route that the direct lock of a route names has its route-lock relay raised. -/
def LocksReleased (box : Interlocking) (id : ObjectId) (state : State) : Prop :=
  ∀ leaf, leaf ∈ box.leavesAt id .directLock → box.plant.kind leaf.target = .ok .route →
    ∃ relays, state.route leaf.target = .ok relays ∧ relays.routeLock = true

/-- The condition of a route for a kind of lock holds as far as track circuits are concerned. -/
def TracksClear (box : Interlocking) (id : ObjectId) (kind : LockKind) (state : State) : Prop :=
  Clause.check (box.isTrackClear state) (box.locks.clause? id kind) = .ok true

/-- The X relay needs an unlocked route that is fed.  It is taken while the final track circuit is
free, and kept whether or not it is. -/
theorem throwOutX_iff {unlocked x : Bool}
    (found : box.throwOutX state id current unlocked = .ok x) :
    x = true ↔ unlocked = true ∧
      (∃ source, box.Feeds state source id ∧ state.isRaised .lever source = true) ∧
      (box.HasFreeTrack id state ∨ current.throwOutX = true) := by
  rcases Fallible.bind_eq_ok.1 found with ⟨sources, given, afterSources⟩
  rcases Fallible.bind_eq_ok.1 afterSources with ⟨raised, traversed, afterRaised⟩
  have anyRaised : raised.any (fun value => value) = true ↔
      ∃ source, box.Feeds state source id ∧ state.isRaised .lever source = true := by
    rw [@State.any_isRaised_iff state .lever sources raised traversed]
    exact exists_congr fun source => and_congr_left fun _ => mem_controllers given
  rw [← anyRaised, HasFreeTrack]
  cases ends : box.locks.finalTrack? id with
  | none =>
    rw [ends] at afterRaised
    cases afterRaised
    simp
  | some track =>
    rw [ends] at afterRaised
    rcases Fallible.bind_eq_ok.1 afterRaised with ⟨free, looked, same⟩
    rcases Fallible.map_eq_ok.1 looked with ⟨circuit, entered, rfl⟩
    cases same
    simp [entered, and_assoc]

section ThrowOut

variable {sources : List ObjectId} {unlocked requested : Bool}

/-- The XR relay needs an unlocked route with a controller that is requested.  It is taken from
a route that is idle, with all controllers dropped, and kept while the lever relay of the
route is raised. -/
theorem throwOutXr_iff {xr : Bool}
    (found : box.throwOutXr state current sources unlocked requested = .ok xr) :
    xr = true ↔ unlocked = true ∧
      (∃ source, source ∈ sources ∧ box.isRequested state source = .ok true) ∧
      (((∀ source, source ∈ sources → state.isRaised .lever source = false) ∧ requested = false) ∨
        current.lever = true) ∧
      (current.lever = true → current.throwOutXr = true) := by
  rcases Fallible.bind_eq_ok.1 found with ⟨pairs, traversed, same⟩
  have looked : ∀ {source pair}, (do
        let asked ← box.isRequested state source
        let relays ← state.route source
        pure (asked, relays.lever)) = Except.ok pair →
      box.isRequested state source = .ok pair.1 ∧ state.isRaised .lever source = pair.2 := by
    intro source pair own
    rcases Fallible.bind_eq_ok.1 own with ⟨asked, request, afterRequest⟩
    rcases Fallible.bind_eq_ok.1 afterRequest with ⟨relays, entered, pairing⟩
    cases pairing
    exact ⟨request, State.isRaised_of_route entered .lever⟩
  have anyRequested : pairs.any Prod.fst = true ↔
      ∃ source, source ∈ sources ∧ box.isRequested state source = .ok true := by
    rw [Fallible.any_of_mapM traversed]
    constructor
    · rintro ⟨source, member, pair, own, asked⟩
      exact ⟨source, member, asked ▸ (looked own).1⟩
    · rintro ⟨source, member, asked⟩
      rcases Fallible.mem_of_mapM traversed member with ⟨pair, _, own⟩
      exact ⟨source, member, pair, own, Except.ok.inj ((looked own).1.symm.trans asked)⟩
  have allDropped : (pairs.all fun pair => !pair.2) = true ↔
      ∀ source, source ∈ sources → state.isRaised .lever source = false := by
    rw [Fallible.all_of_mapM traversed]
    simp only [Bool.not_eq_true']
    constructor
    · intro dropped source member
      rcases Fallible.mem_of_mapM traversed member with ⟨pair, _, own⟩
      exact (looked own).2.trans (dropped source member pair own)
    · intro dropped source member pair own
      exact (looked own).2.symm.trans (dropped source member)
  rw [← anyRequested, ← allDropped, ← Except.ok.inj same]
  cases current.lever <;> simp [and_assoc]

/-- A route without controllers has no XR relay raised, just as one whose controllers are not
requested. -/
theorem throwOutRelays_xr_iff {held : Bool × Bool}
    (found : box.throwOutRelays state id current sources unlocked requested = .ok held) :
    held.1 = true ↔ unlocked = true ∧
      (∃ source, source ∈ sources ∧ box.isRequested state source = .ok true) ∧
      (((∀ source, source ∈ sources → state.isRaised .lever source = false) ∧ requested = false) ∨
        current.lever = true) ∧
      (current.lever = true → current.throwOutXr = true) := by
  unfold throwOutRelays at found
  cases sources with
  | nil =>
    cases found
    simp
  | cons first others =>
    rcases Fallible.bind_eq_ok.1 found with ⟨xr, taken, afterTaken⟩
    rcases Fallible.bind_eq_ok.1 afterTaken with ⟨ys, _, same⟩
    cases same
    exact throwOutXr_iff taken

/-- A leaf is released unless it is a route whose route lock is not. -/
theorem isReleased_iff {leaf : Requirement} {released : Bool}
    (found : box.isReleased state leaf = .ok released) :
    released = true ↔ (box.plant.kind leaf.target = .ok .route →
      ∃ relays, state.route leaf.target = .ok relays ∧ relays.routeLock = true) := by
  rcases Fallible.bind_eq_ok.1 found with ⟨kind, known, asked⟩
  rw [known]
  cases kind with
  | route =>
    rcases Fallible.map_eq_ok.1 asked with ⟨relays, entered, rfl⟩
    simp [entered]
  | _ =>
    cases asked
    simp

/-- The YS relay needs every route in the direct lock released, and the controllers of the route
neither released nor cleared unless the route has been taken over.  It is taken while the
approach is clear, and kept while the approach or the way behind the signal is. -/
theorem throwOutYs_iff {xr ys : Bool}
    (found : box.throwOutYs state id current sources xr = .ok ys) :
    ys = true ↔ box.LocksReleased id state ∧
      ((∀ source, source ∈ sources → ∀ relays, state.route source = .ok relays →
        relays.routeLock = false ∧ relays.signalControl = false) ∨ xr = true) ∧
      (box.TracksClear id .approachLock state ∨
        current.throwOutYs = true ∧ box.TracksClear id .signalControl state) := by
  rcases Fallible.bind_eq_ok.1 found with ⟨released, asked, afterReleased⟩
  rcases Fallible.bind_eq_ok.1 afterReleased with ⟨idle, traversed, afterIdle⟩
  rcases Fallible.bind_eq_ok.1 afterIdle with ⟨approach, checked, afterApproach⟩
  have allReleased : released.all (fun answer => answer) = true ↔ box.LocksReleased id state := by
    rw [Fallible.all_of_mapM asked]
    constructor
    · intro passed leaf member
      rcases Fallible.mem_of_mapM asked member with ⟨answer, _, own⟩
      exact (isReleased_iff own).1 (passed leaf member answer own)
    · intro given leaf member answer own
      exact (isReleased_iff own).2 (given leaf member)
  have allIdle : idle.all (fun answer => answer) = true ↔
      ∀ source, source ∈ sources → ∀ relays, state.route source = .ok relays →
        relays.routeLock = false ∧ relays.signalControl = false := by
    rw [Fallible.all_of_mapM traversed]
    simp [Fallible.map_eq_ok]
  rw [TracksClear, TracksClear, checked, ← allReleased, ← allIdle]
  cases kept : current.throwOutYs with
  | false =>
    rw [kept] at afterApproach
    cases afterApproach
    simp [and_assoc]
  | true =>
    rw [kept] at afterApproach
    rcases Fallible.bind_eq_ok.1 afterApproach with ⟨signal, surveyed, same⟩
    rw [surveyed]
    cases same
    simp [and_assoc]

/-- A route without controllers has no YS relay raised. -/
theorem throwOutRelays_ys_iff {held : Bool × Bool}
    (found : box.throwOutRelays state id current sources unlocked requested = .ok held) :
    held.2 = true ↔ sources ≠ [] ∧ box.LocksReleased id state ∧
      ((∀ source, source ∈ sources → ∀ relays, state.route source = .ok relays →
        relays.routeLock = false ∧ relays.signalControl = false) ∨ held.1 = true) ∧
      (box.TracksClear id .approachLock state ∨
        current.throwOutYs = true ∧ box.TracksClear id .signalControl state) := by
  unfold throwOutRelays at found
  cases sources with
  | nil =>
    cases found
    simp
  | cons first others =>
    rcases Fallible.bind_eq_ok.1 found with ⟨xr, _, afterTaken⟩
    rcases Fallible.bind_eq_ok.1 afterTaken with ⟨ys, kept, same⟩
    cases same
    rw [throwOutYs_iff kept]
    simp

end ThrowOut

end Interlocking

end SignalBox
