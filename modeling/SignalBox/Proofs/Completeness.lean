import SignalBox.Proofs.Supply

namespace SignalBox

/-!
# Complete interlockings

Loading checks that references lead to objects, and of which kind most of them are.  It
does not check that a route named by a lock condition or at an end of a throw-out control
has a definition, nor that the guard of a throw-out control is a lever with a key.  An
interlocking is complete if these hold where a cycle or a detector would follow the
reference.

Every cycle of a complete interlocking succeeds.  Conversely a cycle that succeeds while no
route is under central control has followed every reference but the far ends of the
controls that do not act.
-/

namespace Interlocking

/-- What loading has checked of a plant and its lock table. -/
structure Built (box : Interlocking) : Prop where
  consistent : box.plant.Consistent
  leverless : box.plant.Leverless
  known : box.locks.Known box.plant

/-- Every route that a stage or a detector can ask about is a defined one, and every guard
that the lever stage can ask about has a key. -/
structure Complete (box : Interlocking) : Prop where
  directLock : ∀ id, id ∈ box.plant.routeIds → ∀ leaf, leaf ∈ box.leavesAt id .directLock →
    box.plant.Defines leaf.target
  signalControl : ∀ id, id ∈ box.plant.routeIds →
    ∀ leaf, leaf ∈ box.leavesAt id .signalControl → box.plant.Defines leaf.target
  detector : ∀ id leaf, leaf ∈ box.leavesAt id .detector → leaf.subjectToUnlock = false →
    box.plant.Defines leaf.target
  throwOut : ∀ control, control ∈ box.plant.throwOuts → box.plant.Reaches control →
    box.plant.Connects control

variable {box : Interlocking} {state : State} {id : ObjectId}

/-! ## Cycles of a complete interlocking -/

/-- What is complete is supplied by every state that covers the plant. -/
theorem supplies_of_complete (built : box.Built) (complete : box.Complete)
    (covers : state.Covers box.plant) : box.Supplies state where
  equips := {
    route := fun id defined => (covers.route id).2 defined
    lever := fun _ definition lever stored named => (covers.lever lever).2 <|
      built.consistent.lever definition (Database.mem_definitions_of_route? stored).1 lever named
    button := covers.button
    central := fun _ definition lever stored named => (covers.chrRelay lever).2 <|
      built.consistent.central definition (Database.mem_definitions_of_route? stored).1 lever
        named }
  directLock id defined leaf member :=
    (provides_iff covers (known_of_leavesAt built.known member)).2
      (complete.directLock id defined leaf member)
  signalControl id defined leaf member :=
    (provides_iff covers (known_of_leavesAt built.known member)).2
      (complete.signalControl id defined leaf member)
  approachLock _ _ leaf member :=
    ⟨known_of_leavesAt built.known member, fun circuit => (covers.track leaf.target).2 circuit⟩
  finalTrack id track _ ends :=
    (covers.track track).2 (built.known.finalTracks id track ends)
  ends control listed reaches :=
    ⟨(complete.throwOut control listed reaches).source,
      (complete.throwOut control listed reaches).target⟩
  guard control listed reaches lever named :=
    (covers.keyLever lever).2 ((complete.throwOut control listed reaches).guarded lever named)

/-- Every cycle of a complete interlocking succeeds. -/
theorem sweep_of_complete (built : box.Built) (complete : box.Complete)
    (covers : state.Covers box.plant) : Succeeds (box.sweep state).2 :=
  (supplies_of_complete built complete covers).sweep_succeeds built.consistent

theorem isDetectorLocked_of_complete (built : box.Built) (complete : box.Complete)
    (covers : state.Covers box.plant) (machine : ObjectId) :
    Succeeds (box.isDetectorLocked state machine) := by
  apply isLocked?_succeeds.2
  intro leaf member
  exact (isLocking_succeeds covers (known_of_leavesAt built.known member)).2
    (complete.detector machine leaf member)

/-! ## What a successful cycle shows -/

section Shown

variable (covers : state.Covers box.plant) (swept : Succeeds (box.sweep state).2)
include covers swept

/-- A successful cycle has visited every defined route in every stage. -/
theorem effects_of_success :
    ∃ first second final, Stage.Effect .lever box box.plant.routeIds state first ∧
      Stage.Effect .route box box.plant.routeIds first second ∧
      Stage.Effect .signalControl box box.plant.routeIds second final ∧
      first.Covers box.plant ∧ second.Covers box.plant := by
  rcases swept with ⟨report, done⟩
  have whole : box.sweep state = ((box.sweep state).1, .ok report) := Prod.ext rfl done
  rcases effects_of_sweep whole with ⟨first, second, leverEffect, routeEffect, signalEffect⟩
  have afterLever := covers.of_sameKeys leverEffect.sameKeys
  exact ⟨first, second, _, leverEffect, routeEffect, signalEffect, afterLever,
    afterLever.of_sameKeys routeEffect.sameKeys⟩

variable (built : box.Built)
include built

theorem directLock_of_sweep (defined : id ∈ box.plant.routeIds) {leaf : Requirement}
    (member : leaf ∈ box.leavesAt id .directLock) : box.plant.Defines leaf.target := by
  rcases effects_of_success covers swept with
    ⟨first, second, final, _, routeEffect, _, afterLever, _⟩
  rcases routeEffect.written id defined with ⟨current, relays, _, given, _⟩
  rcases Stage.next_route_eq_ok.1 given with ⟨unlocked, _, _, checked, _⟩
  have asked := check_succeeds.1 ⟨unlocked, checked⟩ leaf member
  exact (isUnlocked_succeeds afterLever (known_of_leavesAt built.known member)).1 asked

theorem signalControl_of_sweep (defined : id ∈ box.plant.routeIds) {leaf : Requirement}
    (member : leaf ∈ box.leavesAt id .signalControl) : box.plant.Defines leaf.target := by
  rcases effects_of_success covers swept with
    ⟨first, second, final, _, _, signalEffect, _, afterRoute⟩
  rcases signalEffect.written id defined with ⟨current, relays, _, given, _⟩
  rcases Stage.next_signalControl_eq_ok.1 given with ⟨clear, _, checked, _⟩
  have asked := check_succeeds.1 ⟨clear, checked⟩ leaf member
  exact (isSignalClear_succeeds afterRoute (known_of_leavesAt built.known member)).1 asked

variable (station : ∀ lever raised, state.chrRelay lever = .ok raised → raised = false)
include station

omit built in
/-- While no route is under central control, a successful cycle has found the station
relays of every defined route. -/
theorem stationRelays_of_sweep (defined : id ∈ box.plant.routeIds) :
    ∃ definition current unlocked, box.plant.route? id = some definition ∧
      Succeeds (box.stationRelays state id definition current unlocked) := by
  rcases effects_of_success covers swept with ⟨first, second, final, leverEffect, _⟩
  rcases leverEffect.written id defined with ⟨current, relays, _, given, _⟩
  rcases Stage.next_lever_eq_ok.1 given with ⟨found, computed, _⟩
  rcases Fallible.bind_eq_ok.1 computed with ⟨definition, stored, rest⟩
  rcases Fallible.bind_eq_ok.1 rest with ⟨locked, _, rest⟩
  rcases Fallible.bind_eq_ok.1 rest with ⟨central, under, rest⟩
  have dropped : central = false := by
    unfold isCentral at under
    cases named : definition.centralControlLever with
    | none =>
      rw [named] at under
      exact (Except.ok.inj under).symm
    | some lever =>
      rw [named] at under
      exact station lever central under
  subst dropped
  exact ⟨definition, current, !locked, Database.definition_eq_ok.1 stored, found, rest⟩

/-- A control that a successful cycle has followed is guarded by a key, and while it acts
both its ends are defined. -/
theorem ends_of_sweep {control : ThrowOut} (listed : control ∈ box.plant.throwOuts)
    (reaches : box.plant.Reaches control) :
    box.plant.IsGuarded control ∧ (isActive state control = .ok true →
      control.source ∈ box.plant.routeIds ∧ control.target ∈ box.plant.routeIds) := by
  have source := built.consistent.source control listed
  have ofController : ∀ kind, control.kind = kind → ∀ sources,
      box.controllers state kind control.target = .ok sources →
      (∀ source, source ∈ sources → source ∈ box.plant.routeIds) →
      control.target ∈ box.plant.routeIds →
      box.plant.IsGuarded control ∧ (isActive state control = .ok true →
        control.source ∈ box.plant.routeIds ∧ control.target ∈ box.plant.routeIds) := by
    intro kind same sources given all target
    constructor
    · have ended := controllers_succeeds.1 ⟨sources, given⟩ control listed rfl same
      exact (isActive_succeeds_iff_isGuarded covers).1
        ((activeEnd_succeeds ⟨_, source⟩).1 ended source)
    · intro acts
      have member := (mem_controllers given).2 ⟨control, listed, rfl, same, rfl, source, acts⟩
      exact ⟨all _ member, target⟩
  cases kind : control.kind with
  | withLever =>
    rcases reaches with ⟨route, defined | defined⟩
    · rcases stationRelays_of_sweep covers swept station defined with
        ⟨definition, current, unlocked, _, found⟩
      rcases of_stationRelays found with ⟨_, _, targets, given, all⟩
      constructor
      · have ended := controlled_succeeds.1 ⟨targets, given⟩ control listed rfl kind
        exact (isActive_succeeds_iff_isGuarded covers).1
          ((activeEnd_succeeds ⟨_, route⟩).1 ended route)
      · intro acts
        have member := (mem_controlled given).2 ⟨control, listed, rfl, kind, rfl, route, acts⟩
        exact ⟨defined, (covers.route _).1 (all _ member)⟩
    · rcases stationRelays_of_sweep covers swept station defined with
        ⟨definition, current, unlocked, _, found⟩
      rcases of_stationRelays found with ⟨_, ⟨sources, given, all⟩, _⟩
      exact ofController .withLever kind sources given
        (fun source member => Database.definition_succeeds.1 (all source member)) defined
  | withoutLever =>
    rcases built.leverless.definition listed kind with ⟨own, stored, leverless⟩
    have defined : control.target ∈ box.plant.routeIds :=
      Database.mem_routeIds_of_route? stored
    rcases stationRelays_of_sweep covers swept station defined with
      ⟨definition, current, unlocked, found, station⟩
    rw [stored] at found
    cases found
    have request := (of_stationRelays station).1
    unfold Interlocking.request at request
    rw [leverless] at request
    rcases route_of_throwOutX (Fallible.bind_pure_succeeds.1 request) with ⟨sources, given, all⟩
    exact ofController .withoutLever kind sources given
      (fun source member => (covers.route source).1 (all source member)) defined

end Shown

end Interlocking

/-! ## Testing completeness -/

namespace Database

variable (plant : Database)

instance (id : ObjectId) (kind : ObjectKind) : Decidable (plant.kind id = .ok kind) :=
  decidable_of_iff ((plant.object? id).map PlantObject.kind = some kind) (by
    rw [kind_eq_ok, Option.map_eq_some_iff])

instance (id : ObjectId) : Decidable (plant.Defines id) :=
  inferInstanceAs (Decidable (plant.kind id = .ok .route → id ∈ plant.routeIds))

instance (id : ObjectId) : Decidable (plant.HasKey id) :=
  inferInstanceAs (Decidable (_ ∨ _))

instance (control : ThrowOut) : Decidable (plant.IsGuarded control) :=
  decidable_of_iff (∀ lever, lever ∈ control.conditionLever.toList → plant.HasKey lever) (by
    simp only [Option.mem_toList, IsGuarded])

instance (control : ThrowOut) : Decidable (plant.Reaches control) :=
  inferInstanceAs (Decidable (_ ∧ _))

instance (control : ThrowOut) : Decidable (plant.Connects control) :=
  decidable_of_iff (control.source ∈ plant.routeIds ∧ control.target ∈ plant.routeIds ∧
      plant.IsGuarded control)
    ⟨fun both => ⟨both.1, both.2.1, both.2.2⟩, fun connects =>
      ⟨connects.source, connects.target, connects.guarded⟩⟩

end Database

namespace Interlocking

/-- Only objects with a condition of some kind have leaves. -/
theorem mem_keys_of_leavesAt {box : Interlocking} {id : ObjectId} {kind : LockKind}
    {leaf : Requirement} (member : leaf ∈ box.leavesAt id kind) :
    (id, kind) ∈ box.locks.clauses.keys := by
  apply (Table.mem_keys_iff_get? _ _).2
  unfold leavesAt LockTable.clause? LockTable.clausesOf at member
  cases stored : box.locks.clauses.get? (id, kind) with
  | none =>
    rw [stored] at member
    cases member
  | some clauses => exact ⟨clauses, rfl⟩

instance (box : Interlocking) : Decidable box.Complete :=
  decidable_of_iff
    ((∀ id, id ∈ box.plant.routeIds → ∀ leaf, leaf ∈ box.leavesAt id .directLock →
        box.plant.Defines leaf.target) ∧
      (∀ id, id ∈ box.plant.routeIds → ∀ leaf, leaf ∈ box.leavesAt id .signalControl →
        box.plant.Defines leaf.target) ∧
      (∀ key, key ∈ box.locks.clauses.keys → ∀ leaf, leaf ∈ box.leavesAt key.1 .detector →
        leaf.subjectToUnlock = false → box.plant.Defines leaf.target) ∧
      ∀ control, control ∈ box.plant.throwOuts → box.plant.Reaches control →
        box.plant.Connects control) (by
    constructor
    · rintro ⟨directLock, signalControl, detector, throwOut⟩
      refine ⟨directLock, signalControl, fun id leaf member => ?_, throwOut⟩
      exact detector (id, .detector) (mem_keys_of_leavesAt member) leaf member
    · intro complete
      exact ⟨complete.directLock, complete.signalControl,
        fun key _ leaf => complete.detector key.1 leaf, complete.throwOut⟩)

end Interlocking

end SignalBox
