import SignalBox.Proofs.Coverage

namespace SignalBox

/-!
# Where the lever stage finds its relays

The lever stage is the only one that follows throw-out controls.  A control matters to the
routes at its two ends as soon as one of them is defined and the other one is a route at
all.  Whether it acts is asked of its guard first, so the guard has to have a key.  The
other end is only looked at while the control acts; but clients can make every guarded
control act.

Only the ends and the guards that were checked are safe to follow.  That a source is a
route was checked, that it is a defined one was not, and neither was the kind of a guard.
-/

namespace Database

/-- A control whose guard, if it has one, has a key. -/
def IsGuarded (plant : Database) (control : ThrowOut) : Prop :=
  ∀ lever, control.conditionLever = some lever → plant.HasKey lever

/-- A control from one defined route to another. -/
structure Connects (plant : Database) (control : ThrowOut) : Prop where
  source : control.source ∈ plant.routeIds
  target : control.target ∈ plant.routeIds
  guarded : plant.IsGuarded control

/-- A control whose end is found by the lever stage of the routes at both ends: one of them
is defined, and the target is a route. -/
def Reaches (plant : Database) (control : ThrowOut) : Prop :=
  plant.kind control.target = .ok .route ∧
    (control.source ∈ plant.routeIds ∨ control.target ∈ plant.routeIds)

/-- The target of a lever-less control has a definition without lever. -/
theorem Leverless.definition {plant : Database} (leverless : plant.Leverless)
    {control : ThrowOut} (listed : control ∈ plant.throwOuts)
    (kind : control.kind = .withoutLever) :
    ∃ definition, plant.route? control.target = some definition ∧ definition.lever = none :=
  isLeverless_iff.1 (leverless control listed kind)

end Database

namespace Interlocking

variable {box : Interlocking} {state : State} {id : ObjectId}

/-! ## Controls that act -/

theorem isActive_succeeds {control : ThrowOut} :
    Succeeds (isActive state control) ↔
      ∀ lever, control.conditionLever = some lever → Succeeds (state.keyLever lever) := by
  unfold isActive
  cases control.conditionLever with
  | none => simp [Fallible.pure_succeeds]
  | some lever =>
    rw [Fallible.bind_pure_succeeds]
    simp

/-- In a state that covers the plant, a guard can be asked if it is a lever with a key. -/
theorem isActive_succeeds_iff_isGuarded (covers : state.Covers box.plant) {control : ThrowOut} :
    Succeeds (isActive state control) ↔ box.plant.IsGuarded control := by
  simp only [isActive_succeeds, covers.keyLever, Database.IsGuarded]

theorem activeEnd_eq_ok {control : ThrowOut} {found : Option ObjectId} :
    box.activeEnd state control id = .ok found ↔
      (box.plant.kind id = .ok .route ∧ ∃ active, isActive state control = .ok active ∧
        found = if active then some id else none) ∨
      ∃ kind, box.plant.kind id = .ok kind ∧ kind ≠ .route ∧ found = none := by
  unfold activeEnd
  rw [Fallible.bind_eq_ok]
  constructor
  · rintro ⟨kind, known, rest⟩
    cases kind with
    | route =>
      rcases Fallible.bind_eq_ok.1 rest with ⟨active, own, same⟩
      exact Or.inl ⟨known, active, own, (Except.ok.inj same).symm⟩
    | _ => exact Or.inr ⟨_, known, by decide, (Except.ok.inj rest).symm⟩
  · rintro (⟨route, active, own, rfl⟩ | ⟨kind, known, other, rfl⟩)
    · exact ⟨.route, route, Fallible.bind_eq_ok.2 ⟨active, own, rfl⟩⟩
    · refine ⟨kind, known, ?_⟩
      cases kind with
      | route => exact absurd rfl other
      | _ => rfl

theorem activeEnd_succeeds (known : Succeeds (box.plant.kind id)) {control : ThrowOut} :
    Succeeds (box.activeEnd state control id) ↔
      (box.plant.kind id = .ok .route → Succeeds (isActive state control)) := by
  constructor
  · rintro ⟨found, same⟩ route
    rcases activeEnd_eq_ok.1 same with ⟨_, active, own, _⟩ | ⟨kind, other, notRoute, _⟩
    · exact ⟨active, own⟩
    · exact absurd (Database.kind_unique other route) notRoute
  · intro asked
    rcases known with ⟨kind, known⟩
    by_cases route : kind = .route
    · subst route
      rcases asked known with ⟨active, own⟩
      exact ⟨_, activeEnd_eq_ok.2 (.inl ⟨known, active, own, rfl⟩)⟩
    · exact ⟨none, activeEnd_eq_ok.2 (.inr ⟨kind, known, route, rfl⟩)⟩

section ActiveRoutes

variable {controls : List ThrowOut} {kind : ThrowOutKind} {otherEnd : ThrowOut → ObjectId}

private theorem mem_ofKind {control : ThrowOut} :
    control ∈ (controls.filter fun control => control.kind == kind) ↔
      control ∈ controls ∧ control.kind = kind := by
  rw [List.mem_filter, beq_iff_eq]

theorem activeRoutes_succeeds :
    Succeeds (box.activeRoutes state controls kind otherEnd) ↔
      ∀ control, control ∈ controls → control.kind = kind →
        Succeeds (box.activeEnd state control (otherEnd control)) := by
  unfold activeRoutes
  rw [Fallible.bind_pure_succeeds]
  constructor
  · rintro ⟨ends, traversed⟩ control listed same
    have kept := mem_ofKind.2 ⟨listed, same⟩
    rcases Fallible.mem_of_mapM traversed kept with ⟨found, _, own⟩
    exact ⟨found, own⟩
  · intro given
    apply Fallible.mapM_succeeds
    intro control kept
    rcases mem_ofKind.1 kept with ⟨listed, same⟩
    exact given control listed same

theorem mem_activeRoutes {routes : List ObjectId}
    (found : box.activeRoutes state controls kind otherEnd = .ok routes) :
    id ∈ routes ↔ ∃ control, control ∈ controls ∧ control.kind = kind ∧
      otherEnd control = id ∧ box.plant.kind id = .ok .route ∧
      isActive state control = .ok true := by
  rcases Fallible.bind_eq_ok.1 found with ⟨ends, traversed, same⟩
  rw [← Except.ok.inj same, List.mem_eraseDups, List.mem_filterMap]
  constructor
  · rintro ⟨own, listed, rfl⟩
    rcases Fallible.exists_of_mem_mapM traversed listed with ⟨control, kept, ended⟩
    rcases mem_ofKind.1 kept with ⟨member, kinds⟩
    rcases activeEnd_eq_ok.1 ended with ⟨route, active, acts, hit⟩ | ⟨_, _, _, impossible⟩
    · cases active with
      | false => cases hit
      | true =>
        cases hit
        exact ⟨control, member, kinds, rfl, route, acts⟩
    · cases impossible
  · rintro ⟨control, member, kinds, rfl, route, acts⟩
    have kept := mem_ofKind.2 ⟨member, kinds⟩
    rcases Fallible.mem_of_mapM traversed kept with ⟨own, listed, ended⟩
    have expected : box.activeEnd state control (otherEnd control) =
        .ok (some (otherEnd control)) :=
      activeEnd_eq_ok.2 (.inl ⟨route, true, acts, rfl⟩)
    rw [expected] at ended
    exact ⟨own, listed, (Except.ok.inj ended).symm⟩

end ActiveRoutes

section Ends

variable {kind : ThrowOutKind}

theorem controllers_succeeds :
    Succeeds (box.controllers state kind id) ↔
      ∀ control, control ∈ box.plant.throwOuts → control.target = id → control.kind = kind →
        Succeeds (box.activeEnd state control control.source) := by
  unfold controllers Database.throwOutsInto
  rw [activeRoutes_succeeds]
  simp only [List.mem_filter, beq_iff_eq, and_imp]

theorem controlled_succeeds :
    Succeeds (box.controlled state id) ↔
      ∀ control, control ∈ box.plant.throwOuts → control.source = id →
        control.kind = .withLever → Succeeds (box.activeEnd state control control.target) := by
  unfold controlled Database.throwOutsFrom
  rw [activeRoutes_succeeds]
  simp only [List.mem_filter, beq_iff_eq, and_imp]

theorem mem_controllers {found : List ObjectId}
    (given : box.controllers state kind id = .ok found) {source : ObjectId} :
    source ∈ found ↔ ∃ control, control ∈ box.plant.throwOuts ∧ control.target = id ∧
      control.kind = kind ∧ control.source = source ∧ box.plant.kind source = .ok .route ∧
      isActive state control = .ok true := by
  rw [mem_activeRoutes given]
  simp only [Database.throwOutsInto, List.mem_filter, beq_iff_eq, and_assoc]

theorem mem_controlled {found : List ObjectId} (given : box.controlled state id = .ok found)
    {target : ObjectId} :
    target ∈ found ↔ ∃ control, control ∈ box.plant.throwOuts ∧ control.source = id ∧
      control.kind = .withLever ∧ control.target = target ∧
      box.plant.kind target = .ok .route ∧ isActive state control = .ok true := by
  rw [mem_activeRoutes given]
  simp only [Database.throwOutsFrom, List.mem_filter, beq_iff_eq, and_assoc]

end Ends

/-! ## The steps of the lever stage -/

/-- The XR and the YS relay of a route; without controllers both are dropped. -/
def throwOutRelays (box : Interlocking) (state : State) (id : ObjectId) (current : RouteRelays)
    (sources : List ObjectId) (unlocked requested : Bool) : Except Missing (Bool × Bool) :=
  if sources.isEmpty then pure (false, false)
  else do
    let xr ← box.throwOutXr state current sources unlocked requested
    let ys ← box.throwOutYs state id current sources xr
    pure (xr, ys)

/-- Whether the button of a route is pressed; a route without one needs none. -/
def isPressed (state : State) (definition : RouteDefinition) : Except Missing Bool :=
  match definition.button with
  | none => pure true
  | some name => state.button name

/-- The relays of a route under station control are found in six steps. -/
theorem stationRelays_eq (definition : RouteDefinition) (current : RouteRelays)
    (unlocked : Bool) :
    box.stationRelays state id definition current unlocked =
      (box.request state id definition current unlocked >>= fun request =>
        box.controllers state .withLever id >>= fun sources =>
        box.controlled state id >>= fun targets =>
        box.throwOutRelays state id current sources unlocked request.2 >>= fun held =>
        isPressed state definition >>= fun button =>
        targets.mapM state.route >>= fun downstream =>
        pure ⟨request.1, held.1, held.2, unlocked &&
          ((!held.1 && !held.2 && request.2) || held.2) &&
          (button || (current.lever && !downstream.any RouteRelays.throwOutXr) ||
            downstream.any fun relays => relays.lever && relays.throwOutXr)⟩) := by
  unfold stationRelays throwOutRelays isPressed
  refine bind_congr fun request => bind_congr fun sources => bind_congr fun targets => ?_
  by_cases empty : sources.isEmpty = true
  · rw [if_pos empty]
    cases definition.button <;> simp [empty]
  · cases definition.button <;> simp [empty, bind_assoc]

/-! ## What a lever stage that succeeds has found -/

/-- Where the X relay of a route is found, every controller has relays. -/
theorem route_of_throwOutX {current : RouteRelays} {unlocked : Bool}
    (found : Succeeds (box.throwOutX state id current unlocked)) :
    ∃ sources, box.controllers state .withoutLever id = .ok sources ∧
      ∀ source, source ∈ sources → Succeeds (state.route source) := by
  rcases found with ⟨value, found⟩
  rcases Fallible.bind_eq_ok.1 found with ⟨sources, given, rest⟩
  rcases Fallible.bind_eq_ok.1 rest with ⟨raised, traversed, _⟩
  refine ⟨sources, given, fun source member => ?_⟩
  rcases Fallible.mem_of_mapM traversed member with ⟨lever, _, own⟩
  rcases Fallible.map_eq_ok.1 own with ⟨relays, entry, _⟩
  exact ⟨relays, entry⟩

/-- Where the XR relay of a route is found, every controller has a definition. -/
theorem definition_of_throwOutXr {current : RouteRelays} {sources : List ObjectId}
    {unlocked requested : Bool}
    (found : Succeeds (box.throwOutXr state current sources unlocked requested))
    {source : ObjectId} (member : source ∈ sources) :
    Succeeds (box.plant.definition source) := by
  rcases found with ⟨value, found⟩
  rcases Fallible.bind_eq_ok.1 found with ⟨pairs, traversed, _⟩
  rcases Fallible.mem_of_mapM traversed member with ⟨pair, _, own⟩
  rcases Fallible.bind_eq_ok.1 own with ⟨asked, request, _⟩
  rcases Fallible.bind_eq_ok.1 request with ⟨definition, defined, _⟩
  exact ⟨definition, defined⟩

/-- The lever relay of a route under station control is only found with the request for
the route, with a definition of every controller and with relays of every route that it
controls. -/
theorem of_stationRelays {definition : RouteDefinition} {current : RouteRelays} {unlocked : Bool}
    (found : Succeeds (box.stationRelays state id definition current unlocked)) :
    Succeeds (box.request state id definition current unlocked) ∧
      (∃ sources, box.controllers state .withLever id = .ok sources ∧
        ∀ source, source ∈ sources → Succeeds (box.plant.definition source)) ∧
      ∃ targets, box.controlled state id = .ok targets ∧
        ∀ target, target ∈ targets → Succeeds (state.route target) := by
  rcases found with ⟨relays, found⟩
  rw [stationRelays_eq] at found
  rcases Fallible.bind_eq_ok.1 found with ⟨requested, request, rest⟩
  rcases Fallible.bind_eq_ok.1 rest with ⟨sources, given, rest⟩
  rcases Fallible.bind_eq_ok.1 rest with ⟨targets, controlled, rest⟩
  rcases Fallible.bind_eq_ok.1 rest with ⟨held, released, rest⟩
  rcases Fallible.bind_eq_ok.1 rest with ⟨button, _, rest⟩
  rcases Fallible.bind_eq_ok.1 rest with ⟨downstream, traversed, _⟩
  refine ⟨⟨_, request⟩, ⟨sources, given, fun source member => ?_⟩, targets, controlled,
    fun target member => ?_⟩
  · have nonempty : sources.isEmpty = false := by
      cases sources with
      | nil => cases member
      | cons first others => rfl
    rw [throwOutRelays, nonempty, if_neg Bool.false_ne_true] at released
    rcases Fallible.bind_eq_ok.1 released with ⟨value, own, _⟩
    exact definition_of_throwOutXr ⟨value, own⟩ member
  · rcases Fallible.mem_of_mapM traversed member with ⟨own, _, entry⟩
    exact ⟨own, entry⟩

end Interlocking

end SignalBox
