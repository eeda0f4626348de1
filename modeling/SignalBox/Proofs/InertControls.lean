import SignalBox.Proofs.LeverFindings
import SignalBox.Proofs.RouteIndices

namespace SignalBox

/-!
# Controls that do nothing

A throw-out control does nothing in a cycle while its guard is not in the position that it asks
for, or if it leads to something that is no route.  It adds nothing where another control that
acts has the same ends and is of the same kind.  Such controls can be taken out of the database
without a trace: a cycle that succeeds makes the same changes without them.

The lists of controllers and of controlled routes that the lever stage goes through without
them may be in another order, as the first of several equal ends has its place in the list.
But they have the same members, and the lever stage only asks whether some or all members
have a property.  This includes the question whether there are controllers at all.  What the
later stages look at has nothing to do with controls.

A cycle that fails is another matter.  The guard of a control that is taken out may be what it
failed on.
-/

namespace Interlocking

/-- The interlocking with only these of its throw-out controls, and with its lock table. -/
def keeping (box : Interlocking) (controls : List ThrowOut) : Interlocking :=
  { box with plant := { box.plant with throwOuts := controls } }

/-- A throw-out control that does nothing beside the controls that are kept. -/
inductive IsInert (box : Interlocking) (state : State) (kept : List ThrowOut)
    (control : ThrowOut) : Prop
  /-- Its guard is not in the position that it asks for. -/
  | idle (off : isActive state control ≠ .ok true)
  | outside (target : box.plant.kind control.target ≠ .ok .route)
  /-- One that is kept acts between the same ends in its place. -/
  | doubled {other : ThrowOut} (listed : other ∈ kept) (source : other.source = control.source)
      (target : other.target = control.target) (kind : other.kind = control.kind)
      (acts : isActive state other = .ok true)

/-- Controls that stand for all controls of the plant: wherever one of these acts on a route, one of
the chosen ones does. -/
structure StandsForAll (box : Interlocking) (state : State) (kept : List ThrowOut) : Prop where
  listed : ∀ control, control ∈ kept → control ∈ box.plant.throwOuts
  represented : ∀ control, control ∈ box.plant.throwOuts →
    box.plant.kind control.target = .ok .route → isActive state control = .ok true →
    ∃ other, other ∈ kept ∧ other.source = control.source ∧ other.target = control.target ∧
      other.kind = control.kind ∧ isActive state other = .ok true

variable {box : Interlocking} {state final : State} {kept : List ThrowOut} {id : ObjectId}

/-- What is left when inert controls are taken out stands for all of them. -/
theorem standsForAll_of_inert (listed : ∀ control, control ∈ kept → control ∈ box.plant.throwOuts)
    (inert : ∀ control, control ∈ box.plant.throwOuts → control ∉ kept →
      box.IsInert state kept control) : box.StandsForAll state kept := by
  refine ⟨listed, fun control stored route acts => ?_⟩
  by_cases left : control ∈ kept
  · exact ⟨control, left, rfl, rfl, rfl, acts⟩
  · cases inert control stored left with
    | idle off => exact absurd acts off
    | outside target => exact absurd route target
    | doubled listed source target kind own => exact ⟨_, listed, source, target, kind, own⟩

namespace StandsForAll

variable (stands : box.StandsForAll state kept)
include stands

/-! ## Ends of controls -/

/-- A route keeps its controllers. -/
theorem controllers {kind : ThrowOutKind} {sources : List ObjectId}
    (route : box.plant.kind id = .ok .route)
    (given : box.controllers state kind id = .ok sources) :
    ∃ others, (box.keeping kept).controllers state kind id = .ok others ∧
      ∀ source, source ∈ others ↔ source ∈ sources := by
  have succeeds : Succeeds ((box.keeping kept).controllers state kind id) :=
    controllers_succeeds.2 fun control left =>
      controllers_succeeds.1 ⟨sources, given⟩ control (stands.listed control left)
  rcases succeeds with ⟨others, found⟩
  refine ⟨others, found, fun source => ?_⟩
  rw [mem_controllers found, mem_controllers given]
  constructor
  · rintro ⟨control, left, rest⟩
    exact ⟨control, stands.listed control left, rest⟩
  · rintro ⟨control, stored, rfl, rfl, rfl, known, acts⟩
    rcases stands.represented control stored route acts with
      ⟨other, left, source, target, kind, own⟩
    exact ⟨other, left, target, kind, source, known, own⟩

/-- A route keeps the routes that it controls. -/
theorem controlled {targets : List ObjectId} (given : box.controlled state id = .ok targets) :
    ∃ others, (box.keeping kept).controlled state id = .ok others ∧
      ∀ target, target ∈ others ↔ target ∈ targets := by
  have succeeds : Succeeds ((box.keeping kept).controlled state id) :=
    controlled_succeeds.2 fun control left =>
      controlled_succeeds.1 ⟨targets, given⟩ control (stands.listed control left)
  rcases succeeds with ⟨others, found⟩
  refine ⟨others, found, fun target => ?_⟩
  rw [mem_controlled found, mem_controlled given]
  constructor
  · rintro ⟨control, left, rest⟩
    exact ⟨control, stands.listed control left, rest⟩
  · rintro ⟨control, stored, rfl, leads, rfl, route, acts⟩
    rcases stands.represented control stored route acts with
      ⟨other, left, source, target, kind, own⟩
    exact ⟨other, left, source, kind.trans leads, target, route, own⟩

/-! ## The lever stage -/

variable {definition : RouteDefinition} {current : RouteRelays}

theorem throwOutX {unlocked x : Bool} (route : box.plant.kind id = .ok .route)
    (found : box.throwOutX state id current unlocked = .ok x) :
    (box.keeping kept).throwOutX state id current unlocked = .ok x := by
  rcases Fallible.bind_eq_ok.1 found with ⟨sources, given, afterSources⟩
  rcases Fallible.bind_eq_ok.1 afterSources with ⟨raised, traversed, afterRaised⟩
  rcases stands.controllers route given with ⟨others, left, same⟩
  rcases Fallible.mapM_of_mem_iff same traversed with ⟨values, done, alike⟩
  refine Fallible.bind_eq_ok.2 ⟨others, left, Fallible.bind_eq_ok.2 ⟨values, done, ?_⟩⟩
  rw [(alike _).1]
  exact afterRaised

theorem request {unlocked : Bool} {asked : Bool × Bool} (route : box.plant.kind id = .ok .route)
    (found : box.request state id definition current unlocked = .ok asked) :
    (box.keeping kept).request state id definition current unlocked = .ok asked := by
  cases lever : definition.lever with
  | some own =>
    rw [Interlocking.request, lever] at found ⊢
    exact found
  | none =>
    rw [Interlocking.request, lever] at found ⊢
    rcases Fallible.bind_eq_ok.1 found with ⟨x, own, same⟩
    exact Fallible.bind_eq_ok.2 ⟨x, stands.throwOutX route own, same⟩

end StandsForAll

section Members

variable {sources others : List ObjectId} {current : RouteRelays} {unlocked requested : Bool}
  (same : ∀ source, source ∈ others ↔ source ∈ sources)
include same

/-- The XR and the YS relay are a matter of which routes are controllers, whatever their order. -/
theorem throwOutXr_of_mem_iff {xr : Bool}
    (found : box.throwOutXr state current sources unlocked requested = .ok xr) :
    box.throwOutXr state current others unlocked requested = .ok xr := by
  rcases Fallible.bind_eq_ok.1 found with ⟨pairs, traversed, afterPairs⟩
  rcases Fallible.mapM_of_mem_iff same traversed with ⟨values, done, alike⟩
  refine Fallible.bind_eq_ok.2 ⟨values, done, ?_⟩
  rw [(alike _).1, (alike _).2]
  exact afterPairs

theorem throwOutYs_of_mem_iff {xr ys : Bool}
    (found : box.throwOutYs state id current sources xr = .ok ys) :
    box.throwOutYs state id current others xr = .ok ys := by
  rcases Fallible.bind_eq_ok.1 found with ⟨released, asked, afterReleased⟩
  rcases Fallible.bind_eq_ok.1 afterReleased with ⟨idle, traversed, afterIdle⟩
  rcases Fallible.mapM_of_mem_iff same traversed with ⟨values, done, alike⟩
  refine Fallible.bind_eq_ok.2 ⟨released, asked, Fallible.bind_eq_ok.2 ⟨values, done, ?_⟩⟩
  rw [(alike _).2]
  exact afterIdle

theorem throwOutRelays_of_mem_iff {held : Bool × Bool}
    (found : box.throwOutRelays state id current sources unlocked requested = .ok held) :
    box.throwOutRelays state id current others unlocked requested = .ok held := by
  have empty : others.isEmpty = sources.isEmpty := by
    rw [Bool.eq_iff_iff, List.isEmpty_iff, List.isEmpty_iff, List.eq_nil_iff_forall_not_mem,
      List.eq_nil_iff_forall_not_mem]
    simp only [same]
  rw [throwOutRelays] at found ⊢
  rw [empty]
  by_cases none : sources.isEmpty = true
  · rw [if_pos none] at found ⊢
    exact found
  · rw [if_neg none] at found ⊢
    rcases Fallible.bind_eq_ok.1 found with ⟨xr, taken, afterTaken⟩
    rcases Fallible.bind_eq_ok.1 afterTaken with ⟨ys, kept, pair⟩
    refine Fallible.bind_eq_ok.2 ⟨xr, throwOutXr_of_mem_iff same taken, ?_⟩
    exact Fallible.bind_eq_ok.2 ⟨ys, throwOutYs_of_mem_iff same kept, pair⟩

end Members

namespace StandsForAll

variable (stands : box.StandsForAll state kept)
include stands

/-- The lever stage finds the same relays for a route. -/
theorem findings {definition : RouteDefinition} {current : RouteRelays} {relays : LeverRelays}
    (route : box.plant.kind id = .ok .route)
    (findings : LeverFindings box state id definition current relays) :
    LeverFindings (box.keeping kept) state id definition current relays := by
  cases findings with
  | central handed lock => exact .central handed lock
  | station station lock request given controlled throwOut pressed traversed =>
    rcases stands.controllers route given with ⟨sources, own, sameSources⟩
    rcases stands.controlled controlled with ⟨targets, led, sameTargets⟩
    rcases Fallible.mapM_of_mem_iff sameTargets traversed with ⟨values, done, alike⟩
    rw [← (alike _).1, ← (alike _).1]
    exact .station station lock (stands.request route request) own led
      (throwOutRelays_of_mem_iff sameSources throwOut) pressed done

/-- In the state for which the controls have been chosen, the lever stage makes the same
changes. -/
theorem leverChanges (routes : ∀ id, id ∈ box.plant.routeIds → box.plant.kind id = .ok .route)
    {changes : List RelayChange}
    (computed : Stage.lever.changes box box.plant.routeIds state = .ok changes) :
    Stage.lever.changes (box.keeping kept) box.plant.routeIds state = .ok changes := by
  rcases Fallible.map_eq_ok.1 computed with ⟨lists, traversed, flattened⟩
  refine Fallible.map_eq_ok.2 ⟨lists, ?_, flattened⟩
  rw [← traversed]
  refine Fallible.mapM_congr fun id visited => ?_
  rcases Fallible.mem_of_mapM traversed visited with ⟨list, _, own⟩
  rw [own]
  rcases Stage.changesOf_eq_ok.1 own with ⟨current, relays, entry, given, differences⟩
  rcases Stage.next_lever_eq_ok.1 given with ⟨found, looked, next⟩
  rcases Database.definition_succeeds.2 visited with ⟨definition, known⟩
  have defined := Database.definition_eq_ok.1 known
  have stillDefined : (box.keeping kept).plant.route? id = some definition := defined
  have same : (box.keeping kept).leverRelays state id current = .ok found :=
    (leverRelays_eq_ok_iff stillDefined).2
      (stands.findings (routes id visited) ((leverRelays_eq_ok_iff defined).1 looked))
  exact Stage.changesOf_eq_ok.2
    ⟨current, relays, entry, Stage.next_lever_eq_ok.2 ⟨found, same, next⟩, differences⟩

end StandsForAll

/-- The other stages have nothing to do with throw-out controls. -/
theorem runs_keeping {routes : Stage → List ObjectId} {stages : List Stage}
    {changes : List RelayChange} (run : Stage.Runs box routes state stages changes final)
    (others : .lever ∉ stages) :
    Stage.Runs (box.keeping kept) routes state stages changes final := by
  induction run with
  | done state => exact .done state
  | @next state between final stage later found _ computed written _ inductionHypothesis =>
    refine .next ?_ written (inductionHypothesis fun member => others (.tail stage member))
    cases stage with
    | lever => exact absurd List.mem_cons_self others
    | route => exact computed
    | signalControl => exact computed

/-- Without controls that are inert in the state in which it starts, a cycle that succeeds makes the
same changes and leaves the same state. -/
theorem sweep_without_inert_controls {adjacency : Adjacency} {additions : List Addition}
    (built : box.plant = .ofAdditions adjacency additions)
    (removed : kept.Sublist box.plant.throwOuts)
    (inert : ∀ control, control ∈ box.plant.throwOuts → control ∉ kept →
      box.IsInert state kept control) {report : SweepReport}
    (swept : box.sweep state = (final, .ok report)) :
    (box.keeping kept).sweep state = (final, .ok report) := by
  have stands := standsForAll_of_inert (fun control left => removed.subset left) inert
  have consistent : box.plant.Consistent := by
    rw [built]
    exact Database.consistent_ofAdditions adjacency additions
  rw [sweep_eq_ok] at swept ⊢
  generalize report.changes = changes at swept
  cases swept with
  | next computed written later =>
    exact .next (stands.leverChanges (fun id => consistent.kind_of_routeIds) computed) written
      (runs_keeping later (by decide))

/-- A control that acts while its guard is normal. -/
def guardedControl : ThrowOut :=
  { source := 10, target := 11, conditionLever := some 40, conditionDirection := some .normal }

/-- A control of another route with the same guard, which it asks to be reversed. -/
def reversedControl : ThrowOut :=
  { source := 12, target := 11, conditionLever := some 40 }

/-- Three routes with levers.  Beside the guarded controls there is one that does the same as the
first of them without a guard, and one that leads to a direction route. -/
def entangledAdditions : List Addition :=
  [.object ⟨1, "TH71_1", .lever, "TH71"⟩, .object ⟨2, "TH71_2", .lever, "TH71"⟩,
    .object ⟨3, "TH71_3", .lever, "TH71"⟩, .object ⟨10, "TH71_1R", .route, "TH71"⟩,
    .object ⟨11, "TH71_2R", .route, "TH71"⟩, .object ⟨12, "TH71_3R", .route, "TH71"⟩,
    .object ⟨40, "TH71_41", .directionSelfControlLever, "TH71"⟩,
    .object ⟨50, "TH71_5D", .directionRoute, "TH71"⟩, .route { id := 10, lever := some 1 },
    .route { id := 11, lever := some 2 }, .route { id := 12, lever := some 3 },
    .throwOut { source := 10, target := 11 }, .throwOut guardedControl, .throwOut reversedControl,
    .throwOut { source := 11, target := 50, targetSide := some .left }]

def entangled : Interlocking :=
  ⟨.ofAdditions {} entangledAdditions, {}⟩

/-- With its lever thrown, the first route takes the second one over, and one of the four controls
is enough for this. -/
theorem entangled_sweep_with_one_control :
    ∃ state final report,
      (State.initial entangled.plant default).mutate (.lever 1 .right) = .ok state ∧
      entangled.sweep state = (final, .ok report) ∧ final.isRaised .throwOutXr 11 = true ∧
      (entangled.keeping [guardedControl]).sweep state = (final, .ok report) := by
  have controls : entangled.plant.throwOuts = [{ source := 10, target := 11 }, guardedControl,
      reversedControl, { source := 11, target := 50, targetSide := some .left }] := by
    decide +kernel
  have direction : entangled.plant.kind 50 = .ok .directionRoute := rfl
  have checked : ((State.initial entangled.plant default).mutate (.lever 1 .right)).toOption.any
      (fun state => (isActive state guardedControl).toOption.any (fun active => active) &&
        (isActive state reversedControl).toOption.any Bool.not &&
        (entangled.sweep state).2.isOk &&
        (entangled.sweep state).1.isRaised .throwOutXr 11) = true := by
    decide +kernel
  rcases Fallible.exists_of_any checked with ⟨state, mutated, found⟩
  simp only [Bool.and_eq_true, Fallible.isOk_iff] at found
  rcases found with ⟨⟨⟨acting, standing⟩, report, succeeded⟩, raised⟩
  rcases Fallible.exists_of_any acting with ⟨_, acts, rfl⟩
  rcases Fallible.exists_of_any standing with ⟨active, off, low⟩
  have swept : entangled.sweep state = ((entangled.sweep state).1, .ok report) :=
    Prod.ext rfl succeeded
  refine ⟨state, _, report, mutated, swept, raised,
    sweep_without_inert_controls rfl (by rw [controls]; decide) ?_ swept⟩
  intro control stored removed
  rw [controls] at stored
  simp only [List.mem_cons, List.not_mem_nil, or_false] at stored
  rcases stored with rfl | rfl | rfl | rfl
  · exact .doubled List.mem_cons_self rfl rfl rfl acts
  · exact absurd List.mem_cons_self removed
  · refine .idle fun on => ?_
    cases off.symm.trans on
    cases low
  · refine .outside fun route => ?_
    cases direction.symm.trans route

end Interlocking

end SignalBox
