import SignalBox.Plant.Data
import SignalBox.Proofs.Fallible

namespace SignalBox

/-!
# Consistent plant databases

A database that is built by additions holds objects that are found under their numbers
and names, and definitions and throw-out controls whose references were checked when they
came in.  An accepted addition is described once, by what was checked and by what was
added; that an addition keeps what the earlier ones established is read off this
description.

Consistency does not say that a referenced route has a definition, nor of which kind the
target and the guard of a throw-out control are.  Neither is checked.
-/

namespace Database

/-! ## Kinds of objects -/

theorem kind_eq_ok {plant : Database} {id : ObjectId} {kind : ObjectKind} :
    plant.kind id = .ok kind ↔ ∃ object, plant.object? id = some object ∧ object.kind = kind := by
  unfold Database.kind Database.object
  rw [Fallible.map_eq_ok]
  cases plant.object? id with
  | none => simp
  | some object => simp

theorem kind_succeeds {plant : Database} {id : ObjectId} :
    Succeeds (plant.kind id) ↔ (plant.object? id).isSome = true := by
  constructor
  · rintro ⟨kind, known⟩
    rcases kind_eq_ok.1 known with ⟨object, found, _⟩
    rw [found]
    rfl
  · intro known
    rcases Option.isSome_iff_exists.1 known with ⟨object, found⟩
    exact ⟨object.kind, kind_eq_ok.2 ⟨object, found, rfl⟩⟩

theorem kind_unique {plant : Database} {id : ObjectId} {first second : ObjectKind}
    (left : plant.kind id = .ok first) (right : plant.kind id = .ok second) : first = second := by
  rw [left] at right
  exact Except.ok.inj right

theorem expectKind_eq_ok {plant : Database} {id : ObjectId} {kind : ObjectKind} :
    plant.expectKind id kind = .ok () ↔ plant.kind id = .ok kind := by
  rw [kind_eq_ok]
  unfold expectKind
  cases plant.object? id with
  | none => simp
  | some object => by_cases same : object.kind = kind <;> simp [same]

theorem expectKindOf?_eq_ok {plant : Database} {id : Option ObjectId} {kind : ObjectKind} :
    plant.expectKindOf? id kind = .ok () ↔
      ∀ lever, id = some lever → plant.kind lever = .ok kind := by
  cases id with
  | none => simp [expectKindOf?]
  | some lever => simp [expectKindOf?, expectKind_eq_ok]

theorem expectEnd_eq_ok {plant : Database} {source id : ObjectId} :
    plant.expectEnd source id = .ok () ↔ Succeeds (plant.kind id) := by
  rw [kind_succeeds]
  unfold expectEnd
  by_cases known : (plant.object? id).isSome = true <;> simp [known]

/-! ## Accepted additions -/

theorem addObject_eq_ok {plant next : Database} {object : PlantObject} :
    plant.addObject object = .ok next ↔
      plant.object? object.id = none ∧ plant.find? object.name = none ∧
        next = { plant with objects := plant.objects ++ [object] } := by
  unfold addObject
  cases plant.object? object.id with
  | some other => simp
  | none =>
    cases plant.find? object.name with
    | some other => simp
    | none => simp [eq_comm]

theorem addRoute_eq_ok {plant next : Database} {route : RouteDefinition} :
    plant.addRoute route = .ok next ↔
      plant.kind route.id = .ok .route ∧
        (∀ lever, route.lever = some lever → plant.kind lever = .ok .lever) ∧
        (∀ lever, route.centralControlLever = some lever →
          plant.kind lever = .ok .routeCentralControlLever) ∧
        next = { plant with definitions := plant.definitions ++ [route] } := by
  unfold addRoute
  rw [Fallible.check_bind_eq_ok, Fallible.check_bind_eq_ok, Fallible.check_bind_eq_ok,
    expectKind_eq_ok, expectKindOf?_eq_ok, expectKindOf?_eq_ok, Except.ok.injEq,
    @eq_comm _ next]

theorem addThrowOut_eq_ok {plant next : Database} {control : ThrowOut} :
    plant.addThrowOut control = .ok next ↔
      plant.kind control.source = .ok .route ∧ Succeeds (plant.kind control.target) ∧
        (∀ lever, control.conditionLever = some lever → Succeeds (plant.kind lever)) ∧
        (control.kind = .withoutLever → plant.isLeverless control.target = true) ∧
        next = { plant with throwOuts := plant.throwOuts ++ [control] } := by
  have accepted : (if control.kind = .withoutLever ∧ plant.isLeverless control.target = false then
        Except.error (PlantFault.throwOutTarget control.source control.target)
      else .ok { plant with throwOuts := plant.throwOuts ++ [control] }) = .ok next ↔
      (control.kind = .withoutLever → plant.isLeverless control.target = true) ∧
        next = { plant with throwOuts := plant.throwOuts ++ [control] } := by
    by_cases refused : control.kind = .withoutLever ∧ plant.isLeverless control.target = false
    · simp [refused]
    · rw [if_neg refused, Except.ok.injEq, @eq_comm _ next]
      simp only [not_and, Bool.not_eq_false] at refused
      exact ⟨fun same => ⟨refused, same⟩, fun both => both.2⟩
  unfold addThrowOut
  cases guarded : control.conditionLever with
  | none =>
    simp only [Fallible.check_bind_eq_ok, expectKind_eq_ok, expectEnd_eq_ok, accepted]
    simp
  | some lever =>
    simp only [Fallible.check_bind_eq_ok, expectKind_eq_ok, expectEnd_eq_ok, accepted,
      Option.some.injEq, forall_eq']

/-! ## Defined routes -/

theorem mem_routeIds {plant : Database} {id : ObjectId} :
    id ∈ plant.routeIds ↔ ∃ definition, definition ∈ plant.definitions ∧ definition.id = id := by
  rw [routeIds, Ascending.mem_ofList, List.mem_map]

theorem mem_definitions_of_route? {plant : Database} {id : ObjectId}
    {definition : RouteDefinition} (found : plant.route? id = some definition) :
    definition ∈ plant.definitions ∧ definition.id = id := by
  have member := List.mem_of_find?_eq_some found
  have same := List.find?_some found
  exact ⟨List.mem_reverse.1 member, beq_iff_eq.1 same⟩

/-- A route has a definition exactly where it is one of the defined routes. -/
theorem definition_succeeds {plant : Database} {id : ObjectId} :
    Succeeds (plant.definition id) ↔ id ∈ plant.routeIds := by
  have found : (plant.route? id).isSome = true ↔ id ∈ plant.routeIds := by
    rw [mem_routeIds, route?, List.find?_isSome]
    simp only [List.mem_reverse, beq_iff_eq]
  rw [← found, Database.definition]
  cases plant.route? id with
  | none => simp [Succeeds]
  | some definition => simp [Succeeds]

theorem definition_eq_ok {plant : Database} {id : ObjectId} {definition : RouteDefinition} :
    plant.definition id = .ok definition ↔ plant.route? id = some definition := by
  unfold Database.definition
  cases plant.route? id with
  | none => simp
  | some other => simp

theorem mem_routeIds_of_route? {plant : Database} {id : ObjectId} {definition : RouteDefinition}
    (defined : plant.route? id = some definition) : id ∈ plant.routeIds :=
  definition_succeeds.1 ⟨definition, definition_eq_ok.2 defined⟩

theorem isLeverless_iff {plant : Database} {id : ObjectId} :
    plant.isLeverless id = true ↔
      ∃ definition, plant.route? id = some definition ∧ definition.lever = none := by
  simp [isLeverless, Option.any_eq_true]

/-! ## What additions establish and keep -/

/-- Objects are found under their numbers and names, and the references of definitions
and throw-out controls are of the kinds that were checked. -/
structure Consistent (plant : Database) : Prop where
  numbered : ∀ object, object ∈ plant.objects → plant.object? object.id = some object
  named : ∀ object, object ∈ plant.objects → plant.find? object.name = some object
  route : ∀ definition, definition ∈ plant.definitions → plant.kind definition.id = .ok .route
  lever : ∀ definition, definition ∈ plant.definitions →
    ∀ lever, definition.lever = some lever → plant.kind lever = .ok .lever
  central : ∀ definition, definition ∈ plant.definitions →
    ∀ lever, definition.centralControlLever = some lever →
      plant.kind lever = .ok .routeCentralControlLever
  source : ∀ control, control ∈ plant.throwOuts → plant.kind control.source = .ok .route
  target : ∀ control, control ∈ plant.throwOuts → Succeeds (plant.kind control.target)
  guarded : ∀ control, control ∈ plant.throwOuts →
    ∀ lever, control.conditionLever = some lever → Succeeds (plant.kind lever)

theorem consistent_empty (adjacency : Adjacency) : Consistent { adjacency := adjacency } := by
  constructor <;> intro item member <;> cases member

/-- An object that is found stays found when another one comes in. -/
private theorem find?_append_of_some {plant : Database} {accepted : PlantObject → Bool}
    {object : PlantObject} (found : plant.objects.find? accepted = some object)
    (added : PlantObject) : (plant.objects ++ [added]).find? accepted = some object := by
  rw [List.find?_append, found]
  rfl

theorem kind_addObject {plant next : Database} {object : PlantObject}
    (added : plant.addObject object = .ok next) {id : ObjectId} {kind : ObjectKind}
    (known : plant.kind id = .ok kind) : next.kind id = .ok kind := by
  rcases addObject_eq_ok.1 added with ⟨_, _, rfl⟩
  rcases kind_eq_ok.1 known with ⟨found, same, kinds⟩
  exact kind_eq_ok.2 ⟨found, find?_append_of_some same object, kinds⟩

theorem consistent_addObject {plant next : Database} {object : PlantObject}
    (consistent : plant.Consistent) (added : plant.addObject object = .ok next) :
    next.Consistent := by
  have keeps : ∀ {id : ObjectId} {kind : ObjectKind},
      plant.kind id = .ok kind → next.kind id = .ok kind := kind_addObject added
  have succeeds : ∀ {id : ObjectId}, Succeeds (plant.kind id) → Succeeds (next.kind id) := by
    rintro id ⟨kind, known⟩
    exact ⟨kind, keeps known⟩
  rcases addObject_eq_ok.1 added with ⟨newId, newName, rfl⟩
  refine
    { numbered := ?_
      named := ?_
      route := fun definition member => keeps (consistent.route definition member)
      lever := fun definition member lever own =>
        keeps (consistent.lever definition member lever own)
      central := fun definition member lever own =>
        keeps (consistent.central definition member lever own)
      source := fun control member => keeps (consistent.source control member)
      target := fun control member => succeeds (consistent.target control member)
      guarded := fun control member lever own =>
        succeeds (consistent.guarded control member lever own) }
  · intro other member
    rcases List.mem_append.1 member with old | new
    · exact find?_append_of_some (consistent.numbered other old) object
    · rw [List.mem_singleton.1 new]
      change (plant.objects ++ [object]).find? _ = some object
      rw [List.find?_append, show plant.objects.find? _ = none from newId]
      simp
  · intro other member
    rcases List.mem_append.1 member with old | new
    · exact find?_append_of_some (consistent.named other old) object
    · rw [List.mem_singleton.1 new]
      change (plant.objects ++ [object]).find? _ = some object
      rw [List.find?_append, show plant.objects.find? _ = none from newName]
      simp

theorem consistent_addRoute {plant next : Database} {route : RouteDefinition}
    (consistent : plant.Consistent) (added : plant.addRoute route = .ok next) :
    next.Consistent := by
  rcases addRoute_eq_ok.1 added with ⟨own, start, central, rfl⟩
  refine { consistent with route := ?_, lever := ?_, central := ?_ }
  · intro definition member
    rcases List.mem_append.1 member with old | new
    · exact consistent.route definition old
    · rw [List.mem_singleton.1 new]
      exact own
  · intro definition member
    rcases List.mem_append.1 member with old | new
    · exact consistent.lever definition old
    · rw [List.mem_singleton.1 new]
      exact start
  · intro definition member
    rcases List.mem_append.1 member with old | new
    · exact consistent.central definition old
    · rw [List.mem_singleton.1 new]
      exact central

theorem consistent_addThrowOut {plant next : Database} {control : ThrowOut}
    (consistent : plant.Consistent) (added : plant.addThrowOut control = .ok next) :
    next.Consistent := by
  rcases addThrowOut_eq_ok.1 added with ⟨source, target, guarded, _, rfl⟩
  refine { consistent with source := ?_, target := ?_, guarded := ?_ }
  · intro other member
    rcases List.mem_append.1 member with old | new
    · exact consistent.source other old
    · rw [List.mem_singleton.1 new]
      exact source
  · intro other member
    rcases List.mem_append.1 member with old | new
    · exact consistent.target other old
    · rw [List.mem_singleton.1 new]
      exact target
  · intro other member
    rcases List.mem_append.1 member with old | new
    · exact consistent.guarded other old
    · rw [List.mem_singleton.1 new]
      exact guarded

/-- The targets of lever-less controls are defined routes without lever.  Additions of
routes need not keep this, so it is only claimed where the controls come last. -/
def Leverless (plant : Database) : Prop :=
  ∀ control, control ∈ plant.throwOuts → control.kind = .withoutLever →
    plant.isLeverless control.target = true

theorem leverless_addThrowOut {plant next : Database} {control : ThrowOut}
    (leverless : plant.Leverless) (added : plant.addThrowOut control = .ok next) :
    next.Leverless := by
  rcases addThrowOut_eq_ok.1 added with ⟨_, _, _, target, rfl⟩
  intro other member
  rcases List.mem_append.1 member with old | new
  · exact leverless other old
  · rw [List.mem_singleton.1 new]
    exact target

/-! ## Kinds in a consistent database -/

namespace Consistent

variable {plant : Database}

theorem kind_of_mem (consistent : plant.Consistent) {object : PlantObject}
    (member : object ∈ plant.objects) : plant.kind object.id = .ok object.kind :=
  kind_eq_ok.2 ⟨object, consistent.numbered object member, rfl⟩

theorem kind_of_find? (consistent : plant.Consistent) {name : String} {object : PlantObject}
    (found : plant.find? name = some object) : plant.kind object.id = .ok object.kind :=
  consistent.kind_of_mem (List.mem_of_find?_eq_some found)

theorem kind_of_routeIds (consistent : plant.Consistent) {id : ObjectId}
    (defined : id ∈ plant.routeIds) : plant.kind id = .ok .route := by
  rcases mem_routeIds.1 defined with ⟨definition, member, same⟩
  rw [← same]
  exact consistent.route definition member

/-- The numbers of the objects of a kind are the numbers that have this kind. -/
theorem mem_objectsOfKind (consistent : plant.Consistent) {id : ObjectId} {kind : ObjectKind} :
    id ∈ (plant.objectsOfKind kind).map PlantObject.id ↔ plant.kind id = .ok kind := by
  rw [List.mem_map]
  constructor
  · rintro ⟨object, member, same⟩
    rcases List.mem_filter.1 member with ⟨listed, kinds⟩
    rw [← same, ← beq_iff_eq.1 kinds]
    exact consistent.kind_of_mem listed
  · intro known
    rcases kind_eq_ok.1 known with ⟨object, found, kinds⟩
    have numbered := List.find?_some found
    refine ⟨object, List.mem_filter.2 ⟨List.mem_of_find?_eq_some found, ?_⟩, ?_⟩
    · rw [kinds]
      exact beq_self_eq_true kind
    · exact beq_iff_eq.1 numbered

end Consistent

end Database

namespace PlantData

theorem consistent_of_buildDatabase {data : PlantData} {plant : Database}
    (built : data.buildDatabase = .ok plant) : plant.Consistent := by
  rcases Fallible.bind_eq_ok.1 built with ⟨withObjects, objects, later⟩
  rcases Fallible.bind_eq_ok.1 later with ⟨withRoutes, routes, controls⟩
  have first := Fallible.foldlM_preserves Database.Consistent
    (fun plant object next consistent added => Database.consistent_addObject consistent added)
    (Database.consistent_empty data.neighbours) objects
  have second := Fallible.foldlM_preserves Database.Consistent
    (fun plant route next consistent added => Database.consistent_addRoute consistent added)
    first routes
  exact Fallible.foldlM_preserves Database.Consistent
    (fun plant control next consistent added =>
      Database.consistent_addThrowOut consistent added) second controls

/-- Objects and routes come in before the first throw-out control does. -/
theorem leverless_of_buildDatabase {data : PlantData} {plant : Database}
    (built : data.buildDatabase = .ok plant) : plant.Leverless := by
  rcases Fallible.bind_eq_ok.1 built with ⟨withObjects, objects, later⟩
  rcases Fallible.bind_eq_ok.1 later with ⟨withRoutes, routes, controls⟩
  have first : withObjects.throwOuts = [] := by
    refine Fallible.foldlM_preserves (fun plant => plant.throwOuts = []) ?_ rfl objects
    intro plant object next none added
    rcases Database.addObject_eq_ok.1 added with ⟨_, _, rfl⟩
    exact none
  have second : withRoutes.throwOuts = [] := by
    refine Fallible.foldlM_preserves (fun plant => plant.throwOuts = []) ?_ first routes
    intro plant route next none added
    rcases Database.addRoute_eq_ok.1 added with ⟨_, _, _, rfl⟩
    exact none
  refine Fallible.foldlM_preserves Database.Leverless (fun plant control next leverless added =>
    Database.leverless_addThrowOut leverless added) ?_ controls
  intro control member
  rw [second] at member
  cases member

end PlantData

end SignalBox
