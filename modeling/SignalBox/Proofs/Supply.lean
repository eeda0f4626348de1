import SignalBox.Proofs.LeverStage

namespace SignalBox

/-!
# What a cycle needs

A cycle fails only where it looks for something that is not there, and there is little that it
looks for: the entries of the defined routes and of what their definitions name, the objects at the
leaves of three kinds of lock, the track circuits in which approach locks end, and the ends and
guards of the throw-out controls that reach a defined route.  A state supplies an interlocking if
all of these are there.

In such a state every stage succeeds.  Which entries there are is not changed by a stage, so what has
been supplied stays supplied.
-/

/-- The state has an entry for every defined route and for everything that its definition names. -/
structure State.Equips (state : State) (plant : Database) : Prop where
  route : ∀ id, id ∈ plant.routeIds → Succeeds (state.route id)
  lever : ∀ id definition lever, plant.route? id = some definition →
    definition.lever = some lever → Succeeds (state.lever lever)
  button : ∀ id definition name, plant.route? id = some definition →
    definition.button = some name → Succeeds (state.button name)
  central : ∀ id definition lever, plant.route? id = some definition →
    definition.centralControlLever = some lever → Succeeds (state.chrRelay lever)

theorem State.Equips.of_sameKeys {plant : Database} {state reached : State}
    (equips : state.Equips plant) (same : SameKeys reached state) : reached.Equips plant where
  route id defined := (entry_succeeds_congr same.routes).2 (equips.route id defined)
  lever id definition lever defined named :=
    (entry_succeeds_congr same.levers).2 (equips.lever id definition lever defined named)
  button id definition name defined named :=
    (entry_succeeds_congr same.buttons).2 (equips.button id definition name defined named)
  central id definition lever defined named :=
    (entry_succeeds_congr same.chrRelays).2 (equips.central id definition lever defined named)

namespace Interlocking

variable {box : Interlocking} {state reached : State} {id : ObjectId}

theorem Provides.of_sameKeys (provided : box.Provides state id)
    (same : State.SameKeys reached state) : box.Provides reached id := by
  rcases provided with ⟨kind, known, entry⟩
  exact ⟨kind, known, entry.of_sameKeys same⟩

/-- Everything that a cycle looks for is there. -/
structure Supplies (box : Interlocking) (state : State) : Prop where
  equips : state.Equips box.plant
  directLock : ∀ id, id ∈ box.plant.routeIds → ∀ leaf, leaf ∈ box.leavesAt id .directLock →
    box.Provides state leaf.target
  signalControl : ∀ id, id ∈ box.plant.routeIds →
    ∀ leaf, leaf ∈ box.leavesAt id .signalControl → box.Provides state leaf.target
  /-- Nothing but track circuits is looked at in an approach lock. -/
  approachLock : ∀ id, id ∈ box.plant.routeIds → ∀ leaf, leaf ∈ box.leavesAt id .approachLock →
    Succeeds (box.plant.kind leaf.target) ∧
      (box.plant.kind leaf.target = .ok .trackCircuit → Succeeds (state.track leaf.target))
  finalTrack : ∀ id track, id ∈ box.plant.routeIds → box.locks.finalTrack? id = some track →
    Succeeds (state.track track)
  ends : ∀ control, control ∈ box.plant.throwOuts → box.plant.Reaches control →
    control.source ∈ box.plant.routeIds ∧ control.target ∈ box.plant.routeIds
  guard : ∀ control, control ∈ box.plant.throwOuts → box.plant.Reaches control →
    ∀ lever, control.conditionLever = some lever → Succeeds (state.keyLever lever)

namespace Supplies

theorem of_sameKeys (supplies : box.Supplies state) (same : State.SameKeys reached state) :
    box.Supplies reached where
  equips := supplies.equips.of_sameKeys same
  directLock id defined leaf member := (supplies.directLock id defined leaf member).of_sameKeys same
  signalControl id defined leaf member :=
    (supplies.signalControl id defined leaf member).of_sameKeys same
  approachLock id defined leaf member := by
    rcases supplies.approachLock id defined leaf member with ⟨known, entry⟩
    exact ⟨known, fun circuit => (State.entry_succeeds_congr same.tracks).2 (entry circuit)⟩
  finalTrack id track defined ends :=
    (State.entry_succeeds_congr same.tracks).2 (supplies.finalTrack id track defined ends)
  ends := supplies.ends
  guard control listed reaches lever named :=
    (State.entry_succeeds_congr same.keyLevers).2
      (supplies.guard control listed reaches lever named)

variable (supplies : box.Supplies state) (consistent : box.plant.Consistent)

section Locks

variable (defined : id ∈ box.plant.routeIds)
include supplies defined

theorem isLocked?_succeeds :
    Succeeds (box.isLocked? state (box.locks.clause? id .directLock)) :=
  Interlocking.isLocked?_succeeds.2 fun leaf member =>
    (supplies.directLock id defined leaf member).isLocking

/-- Whether the track circuits of a lock are clear can be asked of all locks that the YS relay looks
at. -/
theorem tracksClear_succeeds {kind : LockKind} (looked : kind = .approachLock ∨ kind = .signalControl) :
    Succeeds (Clause.check (box.isTrackClear state) (box.locks.clause? id kind)) := by
  refine check_succeeds.2 fun leaf member => ?_
  rcases looked with rfl | rfl
  · rcases supplies.approachLock id defined leaf member with ⟨known, entry⟩
    exact isTrackClear_succeeds known entry
  · exact (supplies.signalControl id defined leaf member).isTrackClear

end Locks

include supplies consistent

/-! ## Throw-out controls -/

section Controls

variable (defined : id ∈ box.plant.routeIds)
include defined

/-- The controllers of a route are found, and they are defined. -/
theorem controllers_defined (kind : ThrowOutKind) :
    ∃ sources, box.controllers state kind id = .ok sources ∧
      ∀ source, source ∈ sources → source ∈ box.plant.routeIds := by
  have reaches : ∀ control, control ∈ box.plant.throwOuts → control.target = id →
      box.plant.Reaches control := by
    intro control listed own
    have target : control.target ∈ box.plant.routeIds := own ▸ defined
    exact ⟨consistent.kind_of_routeIds target, .inr target⟩
  have found : Succeeds (box.controllers state kind id) := by
    refine controllers_succeeds.2 fun control listed own _ => ?_
    refine (activeEnd_succeeds ⟨_, consistent.source control listed⟩).2 fun _ => ?_
    exact isActive_succeeds.2 (supplies.guard control listed (reaches control listed own))
  rcases found with ⟨sources, given⟩
  refine ⟨sources, given, fun source member => ?_⟩
  rcases (mem_controllers given).1 member with ⟨control, listed, own, _, rfl, _, _⟩
  exact (supplies.ends control listed (reaches control listed own)).1

theorem controlled_defined :
    ∃ targets, box.controlled state id = .ok targets ∧
      ∀ target, target ∈ targets → target ∈ box.plant.routeIds := by
  have reaches : ∀ control, control ∈ box.plant.throwOuts → control.source = id →
      box.plant.kind control.target = .ok .route → box.plant.Reaches control :=
    fun control _ own route => ⟨route, .inl (own ▸ defined)⟩
  have found : Succeeds (box.controlled state id) := by
    refine controlled_succeeds.2 fun control listed own _ => ?_
    refine (activeEnd_succeeds (consistent.target control listed)).2 fun route => ?_
    exact isActive_succeeds.2 (supplies.guard control listed (reaches control listed own route))
  rcases found with ⟨targets, given⟩
  refine ⟨targets, given, fun target member => ?_⟩
  rcases (mem_controlled given).1 member with ⟨control, listed, own, _, rfl, route, _⟩
  exact (supplies.ends control listed (reaches control listed own route)).2

end Controls

/-! ## The lever stage -/

section Lever

variable {current : RouteRelays} {sources : List ObjectId} {unlocked requested : Bool}

omit consistent in
theorem isRequested_succeeds (defined : id ∈ box.plant.routeIds) :
    Succeeds (box.isRequested state id) := by
  apply Fallible.bind_succeeds (Database.definition_succeeds.2 defined)
  intro definition found
  cases named : definition.lever with
  | none => exact Fallible.bind_pure_succeeds.2 (supplies.equips.route id defined)
  | some lever =>
    exact Fallible.bind_pure_succeeds.2
      (supplies.equips.lever id definition lever (Database.definition_eq_ok.1 found) named)

omit consistent in
theorem throwOutX_succeeds (defined : id ∈ box.plant.routeIds)
    (given : box.controllers state .withoutLever id = .ok sources)
    (known : ∀ source, source ∈ sources → source ∈ box.plant.routeIds) :
    Succeeds (box.throwOutX state id current unlocked) := by
  rw [throwOutX, Fallible.bind_of_eq_ok given]
  apply Fallible.bind_succeeds
  · apply Fallible.mapM_succeeds
    intro source member
    exact Fallible.map_succeeds (supplies.equips.route source (known source member))
  · intro raised _
    cases final : box.locks.finalTrack? id with
    | none => exact Fallible.pure_succeeds _
    | some track =>
      exact Fallible.bind_pure_succeeds.2
        (Fallible.map_succeeds (supplies.finalTrack id track defined final))

theorem request_succeeds {definition : RouteDefinition}
    (found : box.plant.route? id = some definition) :
    Succeeds (box.request state id definition current unlocked) := by
  have defined := Database.mem_routeIds_of_route? found
  unfold request
  cases named : definition.lever with
  | none =>
    rcases supplies.controllers_defined consistent defined .withoutLever with
      ⟨sources, given, known⟩
    exact Fallible.bind_pure_succeeds.2 (supplies.throwOutX_succeeds defined given known)
  | some lever =>
    exact Fallible.bind_pure_succeeds.2 (supplies.equips.lever id definition lever found named)

omit consistent in
theorem throwOutXr_succeeds
    (known : ∀ source, source ∈ sources → source ∈ box.plant.routeIds) :
    Succeeds (box.throwOutXr state current sources unlocked requested) := by
  apply Fallible.bind_pure_succeeds.2
  apply Fallible.mapM_succeeds
  intro source member
  apply Fallible.bind_succeeds (supplies.isRequested_succeeds (known source member))
  intro asked _
  exact Fallible.bind_pure_succeeds.2 (supplies.equips.route source (known source member))

omit consistent in
theorem throwOutYs_succeeds (defined : id ∈ box.plant.routeIds)
    (known : ∀ source, source ∈ sources → source ∈ box.plant.routeIds) {xr : Bool} :
    Succeeds (box.throwOutYs state id current sources xr) := by
  apply Fallible.bind_succeeds
  · apply Fallible.mapM_succeeds
    intro leaf member
    exact (supplies.directLock id defined leaf member).isReleased
  intro released _
  apply Fallible.bind_succeeds
  · apply Fallible.mapM_succeeds
    intro source member
    exact Fallible.map_succeeds (supplies.equips.route source (known source member))
  intro idle _
  apply Fallible.bind_succeeds (supplies.tracksClear_succeeds defined (.inl rfl))
  intro approach _
  cases current.throwOutYs with
  | true =>
    exact Fallible.bind_pure_succeeds.2 (supplies.tracksClear_succeeds defined (.inr rfl))
  | false => exact Fallible.pure_succeeds _

theorem stationRelays_succeeds {definition : RouteDefinition}
    (found : box.plant.route? id = some definition) :
    Succeeds (box.stationRelays state id definition current unlocked) := by
  have defined := Database.mem_routeIds_of_route? found
  rcases supplies.controllers_defined consistent defined .withLever with
    ⟨sources, given, knownSources⟩
  rcases supplies.controlled_defined consistent defined with ⟨targets, controlled, knownTargets⟩
  rw [stationRelays_eq]
  apply Fallible.bind_succeeds (supplies.request_succeeds consistent found)
  intro request _
  rw [given, Fallible.bind_of_eq_ok rfl, controlled, Fallible.bind_of_eq_ok rfl]
  apply Fallible.bind_succeeds
  · unfold throwOutRelays
    split
    · exact Fallible.pure_succeeds _
    · apply Fallible.bind_succeeds (supplies.throwOutXr_succeeds knownSources)
      intro xr _
      exact Fallible.bind_pure_succeeds.2 (supplies.throwOutYs_succeeds defined knownSources)
  intro held _
  apply Fallible.bind_succeeds
  · unfold isPressed
    cases named : definition.button with
    | none => exact Fallible.pure_succeeds true
    | some name => exact supplies.equips.button id definition name found named
  intro button _
  apply Fallible.bind_pure_succeeds.2
  apply Fallible.mapM_succeeds
  intro target member
  exact supplies.equips.route target (knownTargets target member)

theorem leverRelays_succeeds (defined : id ∈ box.plant.routeIds) :
    Succeeds (box.leverRelays state id current) := by
  apply Fallible.bind_succeeds (Database.definition_succeeds.2 defined)
  intro definition found
  have stored := Database.definition_eq_ok.1 found
  apply Fallible.bind_succeeds (supplies.isLocked?_succeeds defined)
  intro locked _
  apply Fallible.bind_succeeds
  · unfold isCentral
    cases named : definition.centralControlLever with
    | none => exact Fallible.pure_succeeds false
    | some lever => exact supplies.equips.central id definition lever stored named
  intro central _
  cases central with
  | true => exact Fallible.pure_succeeds _
  | false => exact supplies.stationRelays_succeeds consistent stored

end Lever

/-! ## Stages and cycles -/

theorem next_succeeds (stage : Stage) (defined : id ∈ box.plant.routeIds)
    {current : RouteRelays} : Succeeds (stage.next box state id current) := by
  have locked := supplies.isLocked?_succeeds defined
  cases stage with
  | lever => exact Fallible.map_succeeds (supplies.leverRelays_succeeds consistent defined)
  | route =>
    apply Fallible.bind_succeeds
    · exact check_succeeds.2 fun leaf member =>
        (supplies.directLock id defined leaf member).isUnlocked
    intro unlocked _
    apply Fallible.bind_succeeds
    · exact check_succeeds.2 fun leaf member =>
        (supplies.signalControl id defined leaf member).isRouteReady
    intro ready _
    exact Fallible.bind_pure_succeeds.2 locked
  | signalControl =>
    apply Fallible.bind_succeeds
    · exact check_succeeds.2 fun leaf member =>
        (supplies.signalControl id defined leaf member).isSignalClear
    intro clear _
    exact Fallible.bind_pure_succeeds.2 locked

theorem changesOf_succeeds (stage : Stage) (defined : id ∈ box.plant.routeIds) :
    Succeeds (stage.changesOf box state id) := by
  rcases supplies.equips.route id defined with ⟨current, entry⟩
  rcases supplies.next_succeeds consistent stage defined with ⟨relays, given⟩
  exact ⟨_, Stage.changesOf_eq_ok.2 ⟨current, relays, entry, given, rfl⟩⟩

theorem stageChanges_succeeds (stage : Stage) : Succeeds (box.stageChanges state stage) :=
  Fallible.map_succeeds (Fallible.mapM_succeeds fun _ defined =>
    supplies.changesOf_succeeds consistent stage defined)

/-- A cycle succeeds in a state that supplies the interlocking. -/
theorem sweep_succeeds : Succeeds (box.sweep state).2 :=
  @Interlocking.sweep_succeeds box state box.Supplies
    (fun _ _ _ effect supplied => supplied.of_sameKeys effect.sameKeys)
    (fun stage _ supplied => supplied.stageChanges_succeeds consistent stage) supplies

end Supplies

end Interlocking

end SignalBox
