import SignalBox.Proofs.Lists
import SignalBox.Proofs.Register

namespace SignalBox

/-!
# Exact indices

After any additions, of which each was accepted or refused, the indices of objects and of
throw-out controls say exactly what was accepted: every object stands there once and is found by
its number and by its name, and the controls of a source or a target are those that were accepted
for it, in the order in which they came.  The indices of routes are not like this; a route may be
defined again.

An addition is decided by what was accepted before it, so the accepted ones are those of the
database at their moment.  A register gives the same answers and leaves no trace of what it
refuses.
-/

namespace Addition

/-- The object that an addition brings. -/
def object? : Addition → Option PlantObject
  | .object added => some added
  | .route _ => none
  | .throwOut _ => none

/-- The control that an addition brings. -/
def throwOut? : Addition → Option ThrowOut
  | .object _ => none
  | .route _ => none
  | .throwOut added => some added

end Addition

namespace Database

/-- Those of some additions that are accepted, when they are made one after another. -/
def accepted (plant : Database) : List Addition → List Addition
  | [] => []
  | addition :: rest =>
    match plant.add addition with
    | .ok next => addition :: next.accepted rest
    | .error _ => plant.accepted rest

/-! ## What accepted additions leave behind -/

/-- An accepted addition puts its object and its control behind those that are there. -/
theorem lists_of_add {plant next : Database} {addition : Addition}
    (added : plant.add addition = .ok next) :
    next.objects = plant.objects ++ addition.object?.toList ∧
      next.throwOuts = plant.throwOuts ++ addition.throwOut?.toList := by
  cases addition with
  | object object =>
    rcases addObject_eq_ok.1 added with ⟨_, _, rfl⟩
    exact ⟨rfl, (List.append_nil _).symm⟩
  | route route =>
    rcases addRoute_eq_ok.1 added with ⟨_, _, _, rfl⟩
    exact ⟨(List.append_nil _).symm, (List.append_nil _).symm⟩
  | throwOut control =>
    rcases addThrowOut_eq_ok.1 added with ⟨_, _, _, _, rfl⟩
    exact ⟨(List.append_nil _).symm, rfl⟩

theorem lists_of_accepted (plant : Database) (additions : List Addition) :
    (additions.foldl attempt plant).objects =
        plant.objects ++ (plant.accepted additions).filterMap Addition.object? ∧
      (additions.foldl attempt plant).throwOuts =
        plant.throwOuts ++ (plant.accepted additions).filterMap Addition.throwOut? := by
  induction additions generalizing plant with
  | nil => exact ⟨(List.append_nil _).symm, (List.append_nil _).symm⟩
  | cons addition rest inductionHypothesis =>
    rw [List.foldl_cons, attempt, accepted]
    cases added : plant.add addition with
    | error fault => exact inductionHypothesis plant
    | ok next =>
      rcases inductionHypothesis next with ⟨objects, throwOuts⟩
      rcases lists_of_add added with ⟨object, throwOut⟩
      refine ⟨?_, ?_⟩
      · rw [objects, object, List.append_assoc, List.filterMap_cons]
        cases addition.object? <;> rfl
      · rw [throwOuts, throwOut, List.append_assoc, List.filterMap_cons]
        cases addition.throwOut? <;> rfl

/-- The numbers and the names of the objects are distinct. -/
structure Distinct (plant : Database) : Prop where
  ids : (plant.objects.map PlantObject.id).Nodup
  names : (plant.objects.map PlantObject.name).Nodup

theorem distinct_add {plant next : Database} {addition : Addition} (distinct : plant.Distinct)
    (added : plant.add addition = .ok next) : next.Distinct := by
  cases addition with
  | object object =>
    rcases addObject_eq_ok.1 added with ⟨number, name, rfl⟩
    exact ⟨Lists.nodup_map_concat distinct.ids number, Lists.nodup_map_concat distinct.names name⟩
  | route route =>
    rcases addRoute_eq_ok.1 added with ⟨_, _, _, rfl⟩
    exact ⟨distinct.ids, distinct.names⟩
  | throwOut control =>
    rcases addThrowOut_eq_ok.1 added with ⟨_, _, _, _, rfl⟩
    exact ⟨distinct.ids, distinct.names⟩

theorem distinct_ofAdditions (adjacency : Adjacency) (additions : List Addition) :
    (ofAdditions adjacency additions).Distinct :=
  ofAdditions_preserves (fun _ _ _ added distinct => distinct_add distinct added)
    ⟨List.nodup_nil, List.nodup_nil⟩ additions

/-! ## Objects by number and by name -/

section Lookups

variable {plant : Database} (consistent : plant.Consistent)
include consistent

theorem object?_eq_some_iff {id : ObjectId} {object : PlantObject} :
    plant.object? id = some object ↔ object ∈ plant.objects ∧ object.id = id := by
  constructor
  · intro found
    have matching := List.find?_some found
    exact ⟨List.mem_of_find?_eq_some found, beq_iff_eq.1 matching⟩
  · rintro ⟨member, rfl⟩
    exact consistent.numbered object member

theorem find?_eq_some_iff {name : String} {object : PlantObject} :
    plant.find? name = some object ↔ object ∈ plant.objects ∧ object.name = name := by
  constructor
  · intro found
    have matching := List.find?_some found
    exact ⟨List.mem_of_find?_eq_some found, beq_iff_eq.1 matching⟩
  · rintro ⟨member, rfl⟩
    exact consistent.named object member

theorem exists_of_kind {id : ObjectId} {kind : ObjectKind} (known : plant.kind id = .ok kind) :
    ∃ object, object ∈ plant.objects ∧ object.id = id ∧ object.kind = kind := by
  rcases kind_eq_ok.1 known with ⟨object, found, same⟩
  rcases (object?_eq_some_iff consistent).1 found with ⟨member, number⟩
  exact ⟨object, member, number, same⟩

end Lookups

/-! ## Exactness -/

/-- The objects and the throw-out controls of a database, and what it answers about them, are
those of its accepted additions. -/
structure Exact (plant : Database) (objects : List PlantObject) (throwOuts : List ThrowOut) :
    Prop where
  stored : plant.objects = objects
  distinct : plant.Distinct
  object?_iff : ∀ id object,
    plant.object? id = some object ↔ object ∈ objects ∧ object.id = id
  find?_iff : ∀ name object,
    plant.find? name = some object ↔ object ∈ objects ∧ object.name = name
  same : ∀ object, plant.find? object.name = some object ↔ plant.object? object.id = some object
  from_eq : ∀ source,
    plant.throwOutsFrom source = throwOuts.filter fun control => control.source == source
  into_eq : ∀ target,
    plant.throwOutsInto target = throwOuts.filter fun control => control.target == target
  source : ∀ control, control ∈ throwOuts →
    ∃ object, object ∈ objects ∧ object.id = control.source ∧ object.kind = .route
  target : ∀ control, control ∈ throwOuts →
    ∃ object, object ∈ objects ∧ object.id = control.target
  guard : ∀ control, control ∈ throwOuts → ∀ lever, control.conditionLever = some lever →
    ∃ object, object ∈ objects ∧ object.id = lever

theorem exact_of_consistent {plant : Database} (consistent : plant.Consistent)
    (distinct : plant.Distinct) : plant.Exact plant.objects plant.throwOuts := by
  have stored : ∀ {id}, Succeeds (plant.kind id) →
      ∃ object, object ∈ plant.objects ∧ object.id = id := by
    rintro id ⟨kind, known⟩
    rcases exists_of_kind consistent known with ⟨object, member, number, _⟩
    exact ⟨object, member, number⟩
  exact
    { stored := rfl
      distinct := distinct
      object?_iff := fun id object => object?_eq_some_iff consistent
      find?_iff := fun name object => find?_eq_some_iff consistent
      same := fun object => by
        simp only [object?_eq_some_iff consistent, find?_eq_some_iff consistent]
      from_eq := fun source => rfl
      into_eq := fun target => rfl
      source := fun control member => exists_of_kind consistent (consistent.source control member)
      target := fun control member => stored (consistent.target control member)
      guard := fun control member lever guarded =>
        stored (consistent.guarded control member lever guarded) }

/-- After any additions the indices of objects and controls are exact for those that were
accepted, a register with indices gives the answers of the database, and a further addition is
accepted by both or refused by both for the same reason; refused, it leaves both as they were, so
that every query has the answer it had. -/
theorem indices_are_exact (adjacency : Adjacency) (additions : List Addition) :
    (ofAdditions adjacency additions).Exact
        ((accepted { adjacency := adjacency } additions).filterMap Addition.object?)
        ((accepted { adjacency := adjacency } additions).filterMap Addition.throwOut?) ∧
      (Register.ofAdditions adjacency additions).Answers (ofAdditions adjacency additions) ∧
      ∀ addition,
        ((Register.ofAdditions adjacency additions).call addition).1 =
            ((ofAdditions adjacency additions).add addition).map (fun _ => ()) ∧
          (¬ Succeeds ((Register.ofAdditions adjacency additions).call addition).1 →
            ((Register.ofAdditions adjacency additions).call addition).2 =
                Register.ofAdditions adjacency additions ∧
              ofAdditions adjacency (additions ++ [addition]) = ofAdditions adjacency additions) := by
  have mirrors := Register.mirrors_ofAdditions adjacency additions
  have consistent := consistent_ofAdditions adjacency additions
  rcases lists_of_accepted { adjacency := adjacency } additions with ⟨objects, throwOuts⟩
  refine ⟨?_, mirrors.answers consistent, fun addition => ?_⟩
  · rw [List.nil_append] at objects throwOuts
    rw [← objects, ← throwOuts]
    exact exact_of_consistent consistent (distinct_ofAdditions adjacency additions)
  · have called := mirrors.call_eq addition
    have after : ofAdditions adjacency (additions ++ [addition]) =
        (ofAdditions adjacency additions).attempt addition := by
      rw [ofAdditions, List.foldl_append]
      rfl
    rw [after, attempt]
    cases added : (ofAdditions adjacency additions).add addition with
    | error fault =>
      rw [added] at called
      rw [called]
      exact ⟨rfl, fun _ => ⟨rfl, rfl⟩⟩
    | ok next =>
      rw [added] at called
      rcases called with ⟨later, accepts, _⟩
      rw [accepts]
      exact ⟨rfl, fun refused => absurd ⟨(), rfl⟩ refused⟩

/-- Two routes of which the second one has no lever, a control from the first to the second, and
the same control in the other direction, which is refused. -/
def controlledAdditions : List Addition :=
  [.object ⟨1, "TH71_1", .lever, "TH71"⟩, .object ⟨10, "TH71_1R", .route, "TH71"⟩,
    .object ⟨13, "TH71_5R", .route, "TH71"⟩, .route ⟨10, some 1, some "TH71_AP", none⟩,
    .route ⟨13, none, none, none⟩, .throwOut ⟨10, 13, .withoutLever, none, none, none⟩]

/-- The control in the other direction passes all checks but the last one, and neither its source
nor its target lists it. -/
theorem refused_control_leaves_no_trace :
    ((Register.ofAdditions {} controlledAdditions).call
          (.throwOut ⟨13, 10, .withoutLever, none, none, none⟩)).1 =
        .error (.throwOutTarget 13 10) ∧
      ((Register.ofAdditions {} controlledAdditions).call
          (.throwOut ⟨13, 10, .withoutLever, none, none, none⟩)).2 =
        Register.ofAdditions {} controlledAdditions ∧
      (Register.ofAdditions {} controlledAdditions).throwOutsFrom 13 = some [] ∧
      (Register.ofAdditions {} controlledAdditions).throwOutsInto 13 =
        some [⟨10, 13, .withoutLever, none, none, none⟩] := by
  rcases indices_are_exact {} controlledAdditions with ⟨_, answers, further⟩
  rcases further (.throwOut ⟨13, 10, .withoutLever, none, none, none⟩) with ⟨outcome, untouched⟩
  have refused : ((ofAdditions {} controlledAdditions).add
      (.throwOut ⟨13, 10, .withoutLever, none, none, none⟩)).map (fun _ => ()) =
        .error (.throwOutTarget 13 10) := rfl
  rw [refused] at outcome
  refine ⟨outcome, (untouched ?_).1, ?_, ?_⟩
  · rw [outcome]
    rintro ⟨_, impossible⟩
    cases impossible
  · rw [answers.throwOutsFrom]
    decide +kernel
  · rw [answers.throwOutsInto]
    decide +kernel

end Database

end SignalBox
