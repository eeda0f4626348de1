import SignalBox.Proofs.LeverStage
import SignalBox.Proofs.SideBySide

namespace SignalBox

/-!
# More occupancy

A track circuit that fails shows occupied.  The box is safe against this as long as no relay is
raised by occupancy, and it is so for every lock table without negations.

Most of what a stage computes is monotone, and the proofs follow the computation.  The lever
relay is not: it is raised over a dropped XR and a dropped YS relay, and occupancy may drop
both.  Yet occupancy either locks the route, which drops its lever relay whatever else there is,
or it does not, and then the XR relay and the request for the route are as before.  A
YS relay that is dropped then has held the lever relay up before.
-/

open Fallible (Alike)

private theorem not_le_not : ∀ {less more : Bool}, less ≤ more → (!more) ≤ (!less) := by decide

private theorem and_le_and : ∀ {less more fewer others : Bool},
    less ≤ more → fewer ≤ others → (less && fewer) ≤ (more && others) := by decide

private theorem or_le_or : ∀ {less more fewer others : Bool},
    less ≤ more → fewer ≤ others → (less || fewer) ≤ (more || others) := by decide

/-! ## Conditions without negations -/

namespace Condition

variable {α ε : Type}

/-- No part of the condition is negated. -/
inductive IsPositive : Condition α → Prop
  | leaf (value : α) : IsPositive (.leaf value)
  | all {parts : List (Condition α)} (each : ∀ part, part ∈ parts → IsPositive part) :
      IsPositive (.all parts)
  | any {parts : List (Condition α)} (each : ∀ part, part ∈ parts → IsPositive part) :
      IsPositive (.any parts)

section Survey

variable {ask other : α → Except ε Bool} {parts : List (Condition α)}

theorem surveyAll_alike
    (each : ∀ part, part ∈ parts → Alike (· ≥ ·) (survey ask part) (survey other part)) :
    Alike (· ≥ ·) (surveyAll ask parts) (surveyAll other parts) := by
  induction parts with
  | nil => exact .found (Bool.le_refl true)
  | cons part rest inductionHypothesis =>
    refine (each part List.mem_cons_self).bind fun value fewer head => ?_
    refine (inductionHypothesis fun later member =>
      each later (List.mem_cons_of_mem part member)).bind fun others rest tail => .found ?_
    exact and_le_and head tail

theorem surveyAny_alike
    (each : ∀ part, part ∈ parts → Alike (· ≥ ·) (survey ask part) (survey other part)) :
    Alike (· ≥ ·) (surveyAny ask parts) (surveyAny other parts) := by
  induction parts with
  | nil => exact .found (Bool.le_refl false)
  | cons part rest inductionHypothesis =>
    refine (each part List.mem_cons_self).bind fun value fewer head => ?_
    refine (inductionHypothesis fun later member =>
      each later (List.mem_cons_of_mem part member)).bind fun others rest tail => .found ?_
    exact or_le_or head tail

/-- With fewer leaves that hold, a condition without negations holds no more than before. -/
theorem IsPositive.survey_alike {tree : Condition α} (positive : tree.IsPositive)
    (asked : ∀ leaf, Alike (· ≥ ·) (ask leaf) (other leaf)) :
    Alike (· ≥ ·) (tree.survey ask) (tree.survey other) := by
  induction positive with
  | leaf value => exact asked value
  | all _ inductionHypothesis => exact surveyAll_alike inductionHypothesis
  | any _ inductionHypothesis => exact surveyAny_alike inductionHypothesis

end Survey

end Condition

theorem Clause.check_alike {ask other : Requirement → Except Missing Bool}
    {found : Option Clause} (positive : ∀ tree, found = some tree → tree.IsPositive)
    (asked : ∀ leaf, Alike (· ≥ ·) (ask leaf) (other leaf)) :
    Alike (· ≥ ·) (Clause.check ask found) (Clause.check other found) := by
  cases found with
  | none => exact .found (Bool.le_refl true)
  | some tree => exact (positive tree rfl).survey_alike asked

/-- No condition of the table has a negation in it. -/
def LockTable.IsPositive (table : LockTable) : Prop :=
  ∀ object kind tree, tree ∈ table.clausesOf object kind → tree.IsPositive

namespace LockTable.IsPositive

theorem clause {table : LockTable} (positive : table.IsPositive) (object : ObjectId)
    (kind : LockKind) (tree : Clause) (stored : table.clause? object kind = some tree) :
    tree.IsPositive :=
  positive object kind tree (List.mem_of_head? stored)

theorem empty : IsPositive {} :=
  fun _ _ _ listed => absurd listed List.not_mem_nil

private theorem join {stored tree : Clause} (first : stored.IsPositive)
    (second : tree.IsPositive) : (stored.join tree).IsPositive := by
  cases first with
  | leaf value =>
    refine .all fun part member => ?_
    rcases List.mem_pair.1 member with rfl | rfl
    · exact .leaf value
    · exact second
  | all each =>
    refine .all fun part member => ?_
    rcases List.mem_append.1 member with stored | added
    · exact each part stored
    · exact List.mem_singleton.1 added ▸ second
  | any each =>
    refine .all fun part member => ?_
    rcases List.mem_pair.1 member with rfl | rfl
    · exact .any each
    · exact second

/-- A table gets no negation but by the conditions that are added to it. -/
theorem insert {table : LockTable} (positive : table.IsPositive) {tree : Clause}
    (added : tree.IsPositive) (object : ObjectId) (kind : LockKind) :
    (table.insert object kind tree).IsPositive := by
  intro other sort part listed
  rw [clausesOf, LockTable.insert, Table.get?_insert] at listed
  by_cases own : (object, kind) = (other, sort)
  · rw [if_pos own, Option.getD_some] at listed
    unfold extend at listed
    split at listed
    · rcases List.mem_append.1 listed with old | new
      · exact positive object kind part old
      · exact List.mem_singleton.1 new ▸ added
    · split at listed
      · exact List.mem_singleton.1 listed ▸ added
      · rename_i first rest stored
        have old : first ∈ table.clausesOf object kind := stored ▸ List.mem_cons_self
        exact List.mem_singleton.1 listed ▸ join (positive object kind first old) added
  · rw [if_neg own] at listed
    exact positive other sort part listed

end LockTable.IsPositive

/-! ## States with more occupancy -/

/-- The same track circuit, or a clear one that has become occupied with nothing else noted. -/
def TrackState.MoreOccupied (first second : TrackState) : Prop :=
  second = first ∨ first.occupied = false ∧ second = { first with occupied := true }

theorem TrackState.MoreOccupied.occupiedFor_le {first second : TrackState}
    (more : first.MoreOccupied second) (now : Time.Timestamp) (seconds : Option Notation.Seconds) :
    first.occupiedFor now seconds ≤ second.occupiedFor now seconds := by
  rcases more with rfl | ⟨clear, rfl⟩
  · exact Bool.le_refl _
  · unfold occupiedFor
    rw [clear, Bool.false_and]
    exact Bool.false_le _

/-- Two states that are the same but for track circuits that are clear in the first and occupied
in the second. -/
structure State.MoreOccupied (first second : State) : Prop where
  rest : second = { first with tracks := second.tracks }
  tracks : ∀ id,
    Option.Rel TrackState.MoreOccupied (first.tracks.get? id) (second.tracks.get? id)

/-- A track circuit of a state becomes occupied. -/
theorem State.moreOccupied_modify (state : State) (id : ObjectId) :
    MoreOccupied state { state with
      tracks := state.tracks.modify id fun track => { track with occupied := true } } := by
  refine ⟨rfl, fun other => ?_⟩
  rw [Table.get?_modify]
  cases state.tracks.get? other with
  | none => exact .none
  | some track =>
    refine .some ?_
    by_cases own : other = id
    · change TrackState.MoreOccupied track (if other = id then _ else _)
      rw [if_pos own]
      cases occupied : track.occupied with
      | true => exact .inl (by rw [← occupied])
      | false => exact .inr ⟨occupied, rfl⟩
    · exact .inl (if_neg own)

namespace State.MoreOccupied

variable {box : Interlocking} {first second : State} (more : MoreOccupied first second)
include more

theorem track_alike (id : ObjectId) :
    Alike TrackState.MoreOccupied (first.track id) (second.track id) :=
  State.entry_alike (more.tracks id)

theorem routes_eq : second.routes = first.routes := by
  rw [more.rest]

theorem now_eq : second.now = first.now := by
  rw [more.rest]

theorem isTrackClear_alike (leaf : Requirement) :
    Alike (· ≥ ·) (box.isTrackClear first leaf) (box.isTrackClear second leaf) := by
  refine Alike.bind_same fun kind _ => ?_
  cases kind with
  | trackCircuit =>
    refine (more.track_alike leaf.target).bind fun track busier related => .found ?_
    rw [more.now_eq]
    exact not_le_not (related.occupiedFor_le first.now leaf.timer)
  | _ => exact .found (Bool.le_refl true)

/-- More conditions lock. -/
theorem isLocking_alike (leaf : Requirement) :
    Alike (· ≤ ·) (box.isLocking first leaf) (box.isLocking second leaf) := by
  unfold Interlocking.isLocking
  by_cases free : leaf.subjectToUnlock = true
  · rw [if_pos free, if_pos free]
    exact .found (Bool.le_refl false)
  · rw [if_neg free, if_neg free]
    refine Alike.bind_same fun kind _ => ?_
    cases kind with
    | trackCircuit =>
      refine (more.track_alike leaf.target).bind fun track busier related => .found ?_
      rw [more.now_eq]
      exact related.occupiedFor_le first.now leaf.timer
    | route =>
      rw [State.route, State.route, more.routes_eq]
      exact .of_eq Bool.le_refl rfl
    | _ => exact .found (Bool.le_refl false)

theorem isUnlocked_alike (leaf : Requirement) :
    Alike (· ≥ ·) (box.isUnlocked first leaf) (box.isUnlocked second leaf) := by
  refine Alike.bind_same fun kind _ => ?_
  cases kind with
  | trackCircuit => exact more.isTrackClear_alike leaf
  | _ =>
    rw [more.rest]
    exact .of_eq Bool.le_refl rfl

theorem isRouteReady_alike (leaf : Requirement) :
    Alike (· ≥ ·) (box.isRouteReady first leaf) (box.isRouteReady second leaf) := by
  refine Alike.bind_same fun kind _ => ?_
  cases kind with
  | trackCircuit => exact more.isTrackClear_alike leaf
  | _ =>
    rw [more.rest]
    exact .of_eq Bool.le_refl rfl

theorem isSignalClear_alike (leaf : Requirement) :
    Alike (· ≥ ·) (box.isSignalClear first leaf) (box.isSignalClear second leaf) := by
  refine Alike.bind_same fun kind _ => ?_
  cases kind with
  | trackCircuit => exact more.isTrackClear_alike leaf
  | _ =>
    rw [more.rest]
    exact .of_eq Bool.le_refl rfl

/-- A condition without negations that locks still does. -/
theorem isLocked?_alike {found : Option Clause}
    (positive : ∀ tree, found = some tree → tree.IsPositive) :
    Alike (· ≤ ·) (box.isLocked? first found) (box.isLocked? second found) := by
  cases found with
  | none => exact .found (Bool.le_refl false)
  | some tree =>
    refine ((positive tree rfl).survey_alike fun leaf => ?_).bind fun free fewer less =>
      .found (not_le_not less)
    exact (more.isLocking_alike leaf).bind fun locking others le => .found (not_le_not le)

section Stages

variable {id : ObjectId} {definition : RouteDefinition} {current : RouteRelays}

/-! ### The lever stage -/

theorem controllers_eq (kind : ThrowOutKind) :
    box.controllers second kind id = box.controllers first kind id := by
  rw [more.rest]
  rfl

theorem throwOutX_alike {unlocked fewer : Bool} (less : fewer ≤ unlocked) :
    Alike (fun x other => other ≤ x ∧ (fewer = true → other = x))
      (box.throwOutX first id current unlocked) (box.throwOutX second id current fewer) := by
  have value : ∀ raised free : Bool,
      (fewer && raised && free) ≤ (unlocked && raised && free) ∧
        (fewer = true → (fewer && raised && free) = (unlocked && raised && free)) := by
    revert less
    cases fewer <;> cases unlocked <;> decide
  unfold Interlocking.throwOutX State.route
  rw [more.controllers_eq, more.routes_eq]
  refine Alike.bind_same fun sources _ => Alike.bind_same fun raised _ => ?_
  cases box.locks.finalTrack? id with
  | none => exact .found (value _ _)
  | some track =>
    have free : Alike Eq ((first.track track).map fun track => !track.locked)
        ((second.track track).map fun track => !track.locked) := by
      refine (more.track_alike track).map fun circuit busier related => ?_
      rcases related with rfl | ⟨_, rfl⟩ <;> rfl
    exact free.bind fun free _ same => .found (same ▸ value _ _)

/-- The X relay and the request for a route are as before, unless the route becomes locked; its
X relay is dropped then. -/
theorem request_alike {unlocked fewer : Bool} (less : fewer ≤ unlocked) :
    Alike (fun found other => other.1 ≤ found.1 ∧ (fewer = true → other.2 = found.2))
      (box.request first id definition current unlocked)
      (box.request second id definition current fewer) := by
  unfold Interlocking.request
  cases definition.lever with
  | some lever =>
    rw [more.rest]
    exact .bind_same fun position _ => .found ⟨Bool.le_refl false, fun _ => rfl⟩
  | none => exact (more.throwOutX_alike less).bind fun x other related => .found related

theorem throwOutYs_alike (positive : box.locks.IsPositive) {sources : List ObjectId}
    {xr other : Bool} (less : other ≤ xr) :
    Alike (· ≥ ·) (box.throwOutYs first id current sources xr)
      (box.throwOutYs second id current sources other) := by
  have clear : ∀ kind, Alike (· ≥ ·)
      (Clause.check (box.isTrackClear first) (box.locks.clause? id kind))
      (Clause.check (box.isTrackClear second) (box.locks.clause? id kind)) :=
    fun kind => Clause.check_alike (positive.clause id kind) more.isTrackClear_alike
  have released : box.isReleased second = box.isReleased first := by
    rw [more.rest]
    rfl
  unfold Interlocking.throwOutYs State.route
  rw [released, more.routes_eq]
  refine Alike.bind_same fun released _ => Alike.bind_same fun idle _ =>
    (clear .approachLock).bind fun approach fewer lessApproach => ?_
  cases current.throwOutYs with
  | false =>
    exact .found (and_le_and (and_le_and (Bool.le_refl _) (or_le_or (Bool.le_refl _) less))
      (or_le_or lessApproach (Bool.le_refl false)))
  | true =>
    exact (clear .signalControl).bind fun held fewerHeld lessHeld =>
      .found (and_le_and (and_le_and (Bool.le_refl _) (or_le_or (Bool.le_refl _) less))
        (or_le_or lessApproach lessHeld))

/-- The XR relay is as before, unless the route becomes locked; it is dropped then. -/
theorem throwOutRelays_alike (positive : box.locks.IsPositive) {sources : List ObjectId}
    {unlocked fewer requested other : Bool} (less : fewer ≤ unlocked)
    (same : fewer = true → other = requested) :
    Alike (fun held others => others.1 ≤ held.1 ∧ others.2 ≤ held.2 ∧
        (fewer = true → others.1 = held.1))
      (box.throwOutRelays first id current sources unlocked requested)
      (box.throwOutRelays second id current sources fewer other) := by
  have asked : box.isRequested second = box.isRequested first := by
    rw [more.rest]
    rfl
  have taken : Alike (fun xr others => others ≤ xr ∧ (fewer = true → others = xr))
      (box.throwOutXr first current sources unlocked requested)
      (box.throwOutXr second current sources fewer other) := by
    unfold Interlocking.throwOutXr State.route
    rw [asked, more.routes_eq]
    refine .bind_same fun found _ => .found ?_
    cases fewer with
    | false => exact ⟨Bool.false_le _, nofun⟩
    | true =>
      rw [same rfl, Bool.eq_true_of_true_le less]
      exact ⟨Bool.le_refl _, fun _ => rfl⟩
  unfold Interlocking.throwOutRelays
  by_cases alone : sources.isEmpty = true
  · rw [if_pos alone, if_pos alone]
    exact .found ⟨Bool.le_refl false, Bool.le_refl false, fun _ => rfl⟩
  · rw [if_neg alone, if_neg alone]
    exact taken.bind fun xr others related =>
      (more.throwOutYs_alike positive related.1).bind fun ys fewerYs lessYs =>
        .found ⟨related.1, lessYs, related.2⟩

/-- Occupancy does not raise the lever relay of a route, nor its X, XR or YS relay. -/
theorem stationRelays_alike (positive : box.locks.IsPositive) {unlocked fewer : Bool}
    (less : fewer ≤ unlocked) :
    Alike (fun found others => others.x ≤ found.x ∧ others.xr ≤ found.xr ∧
        others.ys ≤ found.ys ∧ others.lever ≤ found.lever)
      (box.stationRelays first id definition current unlocked)
      (box.stationRelays second id definition current fewer) := by
  have targets : box.controlled second id = box.controlled first id := by
    rw [more.rest]
    rfl
  have pressed : Interlocking.isPressed second definition =
      Interlocking.isPressed first definition := by
    rw [more.rest]
    rfl
  -- The route is locked now, or everything but its YS relay is as before.
  have lever : ∀ {xr ys requested xrOther ysOther requestedOther : Bool} (asked : Bool),
      (fewer = true → requestedOther = requested) → (fewer = true → xrOther = xr) →
      ysOther ≤ ys →
      (fewer && ((!xrOther && !ysOther && requestedOther) || ysOther) && asked) ≤
        (unlocked && ((!xr && !ys && requested) || ys) && asked) := by
    intro xr ys requested xrOther ysOther requestedOther asked sameRequest sameXr lessYs
    cases fewer with
    | false => exact Bool.false_le _
    | true =>
      rw [sameRequest rfl, sameXr rfl, Bool.eq_true_of_true_le less]
      revert lessYs
      cases xr <;> cases ys <;> cases ysOther <;> cases requested <;> cases asked <;> decide
  rw [Interlocking.stationRelays_eq, Interlocking.stationRelays_eq, more.controllers_eq, targets,
    pressed]
  refine (more.request_alike less).bind fun request other sameRequest =>
    Alike.bind_same fun sources _ => Alike.bind_same fun targets _ => ?_
  refine (more.throwOutRelays_alike positive less sameRequest.2).bind fun held others related =>
    Alike.bind_same fun button _ => ?_
  unfold State.route
  rw [more.routes_eq]
  exact .bind_same fun downstream _ => .found ⟨sameRequest.1, related.1, related.2.1,
    lever _ sameRequest.2 related.2.2 related.2.1⟩

theorem leverRelays_alike (positive : box.locks.IsPositive) :
    Alike (fun found others => others.x ≤ found.x ∧ others.xr ≤ found.xr ∧
        others.ys ≤ found.ys ∧ others.lever ≤ found.lever)
      (box.leverRelays first id current) (box.leverRelays second id current) := by
  have control : Interlocking.isCentral second = Interlocking.isCentral first := by
    rw [more.rest]
    rfl
  unfold Interlocking.leverRelays
  rw [control]
  refine .bind_same fun definition _ =>
    (more.isLocked?_alike (positive.clause id .directLock)).bind fun locked others further =>
      .bind_same fun central _ => ?_
  cases central with
  | true =>
    exact .found ⟨Bool.le_refl false, Bool.le_refl false, Bool.le_refl false,
      and_le_and (not_le_not further) (Bool.le_refl _)⟩
  | false => exact more.stationRelays_alike positive (not_le_not further)

/-! ### All stages -/

/-- With more occupancy a stage finds no relay of a route raised that it does not find raised
without. -/
theorem next_alike (positive : box.locks.IsPositive) (stage : Stage) :
    Alike (fun relays others => ∀ relay : Relay, relay.get others ≤ relay.get relays)
      (stage.next box first id current) (stage.next box second id current) := by
  have locked : Alike (· ≤ ·) (box.isLocked? first (box.locks.clause? id .directLock))
      (box.isLocked? second (box.locks.clause? id .directLock)) :=
    more.isLocked?_alike (positive.clause id .directLock)
  cases stage with
  | lever =>
    refine (more.leverRelays_alike positive).map fun found others ⟨x, xr, ys, lever⟩ relay => ?_
    cases relay <;> first | assumption | exact Bool.le_refl _
  | route =>
    refine (Clause.check_alike (positive.clause id .directLock) more.isUnlocked_alike).bind
      fun unlocked fewer lessUnlocked => ?_
    refine (Clause.check_alike (positive.clause id .signalControl) more.isRouteReady_alike).bind
      fun ready others lessReady => locked.bind fun held further moreLocked =>
        .found fun relay => ?_
    cases relay with
    | route =>
      exact and_le_and (and_le_and (and_le_and (Bool.le_refl _) lessUnlocked) lessReady)
        (not_le_not moreLocked)
    | _ => exact Bool.le_refl _
  | signalControl =>
    refine (Clause.check_alike (positive.clause id .signalControl) more.isSignalClear_alike).bind
      fun clear others lessClear => locked.bind fun held further moreLocked =>
        .found fun relay => ?_
    cases relay with
    | signalControl =>
      exact and_le_and (and_le_and (Bool.le_refl _) lessClear) (not_le_not moreLocked)
    | _ => exact Bool.le_refl _

/-- A stage fails with more occupancy where it fails without. -/
theorem changes_alike (positive : box.locks.IsPositive) (stage : Stage) (routes : List ObjectId) :
    Alike (fun _ _ => True) (stage.changes box routes first) (stage.changes box routes second) := by
  have each : ∀ id, Alike (fun _ _ => True) (stage.changesOf box first id)
      (stage.changesOf box second id) := by
    intro id
    rw [Stage.changesOf_eq, Stage.changesOf_eq, State.route, State.route, more.routes_eq]
    exact .bind_same fun current _ => (more.next_alike positive stage).bind fun _ _ _ =>
      .found True.intro
  exact (Alike.mapM fun id _ => each id).map fun _ _ _ => True.intro

end Stages

end State.MoreOccupied

namespace Stage

/-- Additional occupancy can only drop relays.  If the conditions of the lock table have no
negations, each stage succeeds with more track circuits occupied exactly where it succeeds with
fewer of them occupied, and every relay that it leaves raised there it also leaves raised here. -/
theorem occupancy_raises_no_relay {box : Interlocking} (positive : box.locks.IsPositive)
    {first second : State} (more : State.MoreOccupied first second) (stage : Stage) :
    (Succeeds (stage.perform box box.plant.routeIds second).2 ↔
        Succeeds (stage.perform box box.plant.routeIds first).2) ∧
      ∀ relay id,
        (stage.perform box box.plant.routeIds second).1.isRaised relay id = true →
          (stage.perform box box.plant.routeIds first).1.isRaised relay id = true := by
  have before : ∀ relay id, second.isRaised relay id = first.isRaised relay id := by
    intro relay id
    rw [State.isRaised, State.isRaised, more.routes_eq]
  have alike := more.changes_alike positive stage box.plant.routeIds
  rw [perform_eq, perform_eq]
  generalize computed : stage.changes box box.plant.routeIds first = outcome,
    computedMore : stage.changes box box.plant.routeIds second = outcomeMore at alike ⊢
  cases alike with
  | failed missing => exact ⟨.rfl, fun relay id raised => before relay id ▸ raised⟩
  | @found changes changesMore _ =>
    refine ⟨⟨fun _ => ⟨changes, rfl⟩, fun _ => ⟨changesMore, rfl⟩⟩, fun relay id raised => ?_⟩
    have effect := effect_of_changes computed
    have effectMore := effect_of_changes computedMore
    change (changesMore.foldl State.record second).isRaised relay id = true at raised
    change (changes.foldl State.record first).isRaised relay id = true
    by_cases visited : id ∈ box.plant.routeIds
    · rcases effect.written id visited with ⟨current, relays, entered, given, after⟩
      rcases effectMore.written id visited with
        ⟨currentMore, relaysMore, enteredMore, givenMore, afterMore⟩
      rw [State.route, more.routes_eq] at enteredMore
      cases entered.symm.trans enteredMore
      rw [State.isRaised_of_route afterMore] at raised
      rw [State.isRaised_of_route after]
      exact (more.next_alike positive stage).related given givenMore relay raised
    · rw [State.isRaised, effectMore.others id visited, ← State.isRaised, before] at raised
      rwa [State.isRaised, effect.others id visited, ← State.isRaised]

end Stage

namespace Interlocking

/-- A box of two routes, of which the first controls the second one.  The second one has a track
circuit in its approach. -/
def approached : Interlocking where
  plant := {
    objects := [⟨1, "TH71_1", .lever, "TH71"⟩, ⟨2, "TH71_2", .lever, "TH71"⟩,
      ⟨10, "TH71_1R", .route, "TH71"⟩, ⟨11, "TH71_2R", .route, "TH71"⟩,
      ⟨30, "TH71_3T", .trackCircuit, "TH71"⟩]
    definitions := [{ id := 10, lever := some 1 }, { id := 11, lever := some 2 }]
    throwOuts := [{ source := 10, target := 11 }] }
  locks := LockTable.insert {} 11 .approachLock (.leaf { target := 30 })

/-- The lever of the first route has been thrown. -/
def approachedThrown : State :=
  { State.initial approached.plant default with
    levers := Table.ofList [(1, .right), (2, .center)] }

/-- The track circuit is occupied. -/
def approachedOccupied : State :=
  { approachedThrown with
    tracks := approachedThrown.tracks.modify 30 fun track => { track with occupied := true } }

/-- Either way the second route is taken over.  Without the YS relay, which the occupancy has
dropped, it does not get its lever relay. -/
theorem occupied_approach_raises_no_relay :
    (∀ relay, relay ∈ [Relay.throwOutYs, .lever] →
      (Stage.lever.perform approached approached.plant.routeIds approachedThrown).1.isRaised
          relay 11 = true ∧
        (Stage.lever.perform approached approached.plant.routeIds approachedOccupied).1.isRaised
          relay 11 = false) ∧
      (Stage.lever.perform approached approached.plant.routeIds approachedOccupied).1.isRaised
        .throwOutXr 11 = true ∧
      (Stage.lever.perform approached approached.plant.routeIds approachedThrown).1.isRaised
        .throwOutXr 11 = true := by
  have positive : approached.locks.IsPositive := .insert .empty (.leaf _) 11 .approachLock
  have raised : (Stage.lever.perform approached approached.plant.routeIds
      approachedOccupied).1.isRaised .throwOutXr 11 = true := by decide +kernel
  have kept := Stage.occupancy_raises_no_relay positive
    (State.moreOccupied_modify approachedThrown 30) .lever
  exact ⟨by decide +kernel, raised, kept.2 .throwOutXr 11 raised⟩

end Interlocking

end SignalBox
