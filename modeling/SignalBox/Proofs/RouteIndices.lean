import SignalBox.Proofs.Consistency

namespace SignalBox

/-!
# Indices of routes

A database is made by additions in any order, of which each is accepted or refused.  The
routes of a lever and of a button are listed for every accepted definition, but of several
definitions of one route only the last one counts.  Objects are refused where their number is
taken; a route that is defined already is not.

So whether the lists agree with the definitions is a matter of the replaced ones: every
replaced definition that had a lever leaves the route listed at it, a second time or without
any right.  And a control that needs a target without lever was checked when it came in; the
target may have been given a lever since.
-/

/-- One addition to a database. -/
inductive Addition where
  | object (added : PlantObject)
  | route (added : RouteDefinition)
  | throwOut (added : ThrowOut)

namespace Database

/-- Make one addition, unless it is refused. -/
def add (plant : Database) : Addition → Except PlantFault Database
  | .object added => plant.addObject added
  | .route added => plant.addRoute added
  | .throwOut added => plant.addThrowOut added

/-- The database after an addition that may be refused. -/
def attempt (plant : Database) (addition : Addition) : Database :=
  match plant.add addition with
  | .ok next => next
  | .error _ => plant

/-- The database that some additions make of the empty one, whether or not all of them are
accepted. -/
def ofAdditions (adjacency : Adjacency) (additions : List Addition) : Database :=
  additions.foldl attempt { adjacency := adjacency }

/-- The lists of an index have exactly the routes whose definition has the value of the field,
and each of them once. -/
structure Indexes {α : Type} (plant : Database) (index : α → List ObjectId)
    (field : RouteDefinition → Option α) : Prop where
  nodup : ∀ key, (index key).Nodup
  mem_iff : ∀ key id, id ∈ index key ↔
    ∃ route, plant.route? id = some route ∧ field route = some key

/-- A definition of a route was replaced by the one that counts. -/
structure Replaces (plant : Database) (later earlier : RouteDefinition) : Prop where
  behind : [earlier, later].Sublist plant.definitions
  current : plant.route? earlier.id = some later

variable {plant : Database} {earlier later other route : RouteDefinition}

/-! ## Replaced definitions -/

/-- A definition that another one of its route comes behind is replaced by the last of them. -/
theorem exists_replaces (behind : [earlier, other].Sublist plant.definitions)
    (same : other.id = earlier.id) : ∃ later, plant.Replaces later earlier := by
  rcases List.cons_sublist_iff.1 behind with ⟨front, back, split, first, second⟩
  have found : (back.reverse.find? fun route => route.id == earlier.id).isSome = true :=
    List.find?_isSome.2
      ⟨other, List.mem_reverse.2 (List.singleton_sublist.1 second), beq_iff_eq.2 same⟩
  rcases Option.isSome_iff_exists.1 found with ⟨later, last⟩
  refine ⟨later, ?_, ?_⟩
  · rw [split]
    exact (List.singleton_sublist.2 first).append
      (List.singleton_sublist.2 (List.mem_reverse.1 (List.mem_of_find?_eq_some last)))
  · rw [route?, split, List.reverse_append, List.find?_append, last]
    rfl

/-- An accepted definition counts or has been replaced. -/
theorem route?_or_replaces (accepted : route ∈ plant.definitions) :
    plant.route? route.id = some route ∨ ∃ later, plant.Replaces later route := by
  rcases List.append_of_mem accepted with ⟨front, back, split⟩
  by_cases again : ∃ other, other ∈ back ∧ other.id = route.id
  · right
    rcases again with ⟨other, listed, same⟩
    refine exists_replaces ?_ same
    rw [split]
    exact ((List.singleton_sublist.2 listed).cons_cons route).trans
      (List.sublist_append_right front _)
  · left
    have last : back.reverse.find? (fun other => other.id == route.id) = none := by
      refine List.find?_eq_none.2 fun other listed same => again ⟨other, ?_, beq_iff_eq.1 same⟩
      exact List.mem_reverse.1 listed
    rw [route?, split, List.reverse_append, List.reverse_cons, List.append_assoc,
      List.find?_append, last, Option.none_or]
    simp

theorem Replaces.id_eq (replaces : plant.Replaces later earlier) : later.id = earlier.id :=
  (mem_definitions_of_route? replaces.current).2

/-- A list of definitions that holds a replaced one and its replacement has a route twice. -/
theorem Replaces.not_nodup (replaces : plant.Replaces later earlier)
    {listed : RouteDefinition → Bool} (first : listed earlier = true)
    (second : listed later = true) :
    ¬ ((plant.definitions.filter listed).map RouteDefinition.id).Nodup := by
  intro nodup
  have both := (replaces.behind.filter listed).map RouteDefinition.id
  rw [List.filter_cons_of_pos first, List.filter_cons_of_pos second] at both
  have apart := nodup.sublist both
  simp [replaces.id_eq] at apart

/-- Where no route is defined twice, no definition is replaced. -/
theorem not_replaces (once : (plant.definitions.map RouteDefinition.id).Nodup) :
    ¬ plant.Replaces later earlier := by
  intro replaces
  have all : plant.definitions.filter (fun _ => true) = plant.definitions :=
    List.filter_eq_self.2 fun _ _ => rfl
  rw [← all] at once
  exact replaces.not_nodup rfl rfl once

/-! ## Indices -/

section Fields

variable {α : Type} [BEq α] [LawfulBEq α]

/-- The routes that were defined with a value of a field, as the indices list them. -/
def definedWith (plant : Database) (field : RouteDefinition → Option α) (key : α) :
    List ObjectId :=
  (plant.definitions.filter fun route => field route == some key).map RouteDefinition.id

variable {field : RouteDefinition → Option α} {key : α}

theorem mem_definedWith {id : ObjectId} :
    id ∈ plant.definedWith field key ↔
      ∃ route, route ∈ plant.definitions ∧ field route = some key ∧ route.id = id := by
  simp [definedWith, and_assoc]

/-- An index agrees with the definitions exactly if it lists nothing for a replaced one. -/
theorem indexes_definedWith_iff :
    plant.Indexes (plant.definedWith field) field ↔
      ∀ earlier later, plant.Replaces later earlier → field earlier = none := by
  constructor
  · intro indexes earlier later replaces
    cases listed : field earlier with
    | none => rfl
    | some key =>
      have member : earlier.id ∈ plant.definedWith field key :=
        mem_definedWith.2 ⟨earlier, replaces.behind.subset List.mem_cons_self, listed, rfl⟩
      rcases (indexes.mem_iff key earlier.id).1 member with ⟨route, found, value⟩
      cases replaces.current.symm.trans found
      exact absurd (indexes.nodup key)
        (replaces.not_nodup (beq_iff_eq.2 listed) (beq_iff_eq.2 value))
  · intro unlisted
    have counts : ∀ {route key}, route ∈ plant.definitions → field route = some key →
        plant.route? route.id = some route := by
      intro route key accepted value
      rcases route?_or_replaces accepted with current | ⟨later, replaces⟩
      · exact current
      · cases (unlisted route later replaces).symm.trans value
    constructor
    · intro key
      rw [definedWith, List.Nodup, List.pairwise_map, List.pairwise_filter,
        List.pairwise_iff_forall_sublist]
      intro earlier other behind value _ same
      rcases exists_replaces behind same.symm with ⟨later, replaces⟩
      cases (unlisted earlier later replaces).symm.trans (beq_iff_eq.1 value)
    · intro key id
      rw [mem_definedWith]
      constructor
      · rintro ⟨route, accepted, value, rfl⟩
        exact ⟨route, counts accepted value, value⟩
      · rintro ⟨route, found, value⟩
        rcases mem_definitions_of_route? found with ⟨accepted, same⟩
        exact ⟨route, accepted, value, same⟩

end Fields

/-! ## Targets of lever-less controls -/

/-- Some definition of the target of each lever-less control had no lever. -/
def Targeted (plant : Database) : Prop :=
  ∀ control, control ∈ plant.throwOuts → control.kind = .withoutLever →
    ∃ definition, definition ∈ plant.definitions ∧ definition.id = control.target ∧
      definition.lever = none

/-- An accepted addition keeps this, as a route only gains definitions and a new control was
checked. -/
theorem targeted_add {next : Database} {addition : Addition} (targeted : plant.Targeted)
    (added : plant.add addition = .ok next) : next.Targeted := by
  cases addition with
  | object object =>
    rcases addObject_eq_ok.1 added with ⟨_, _, rfl⟩
    exact targeted
  | route route =>
    rcases addRoute_eq_ok.1 added with ⟨_, _, _, rfl⟩
    intro control listed leverless
    rcases targeted control listed leverless with ⟨definition, accepted, own⟩
    exact ⟨definition, List.mem_append_left _ accepted, own⟩
  | throwOut control =>
    rcases addThrowOut_eq_ok.1 added with ⟨_, _, _, target, rfl⟩
    intro other listed leverless
    rcases List.mem_append.1 listed with old | new
    · exact targeted other old leverless
    · rw [List.mem_singleton.1 new] at leverless ⊢
      rcases isLeverless_iff.1 (target leverless) with ⟨definition, found, none⟩
      rcases mem_definitions_of_route? found with ⟨accepted, same⟩
      exact ⟨definition, accepted, same, none⟩

/-- What accepted additions keep, holds after any additions. -/
theorem ofAdditions_preserves {property : Database → Prop} {adjacency : Adjacency}
    (kept : ∀ plant addition next, plant.add addition = .ok next → property plant → property next)
    (empty : property { adjacency := adjacency }) (additions : List Addition) :
    property (ofAdditions adjacency additions) := by
  unfold ofAdditions
  generalize ({ adjacency := adjacency } : Database) = plant at empty
  induction additions generalizing plant with
  | nil => exact empty
  | cons addition rest inductionHypothesis =>
    refine inductionHypothesis (plant.attempt addition) ?_
    cases added : plant.add addition with
    | error fault =>
      rw [attempt, added]
      exact empty
    | ok next =>
      rw [attempt, added]
      exact kept plant addition next added empty

theorem targeted_ofAdditions (adjacency : Adjacency) (additions : List Addition) :
    (ofAdditions adjacency additions).Targeted := by
  refine ofAdditions_preserves ?_ ?_ additions
  · intro plant addition next added targeted
    exact targeted_add targeted added
  · intro control impossible
    cases impossible

theorem consistent_add {next : Database} {addition : Addition} (consistent : plant.Consistent)
    (added : plant.add addition = .ok next) : next.Consistent := by
  cases addition with
  | object object => exact consistent_addObject consistent added
  | route route => exact consistent_addRoute consistent added
  | throwOut control => exact consistent_addThrowOut consistent added

theorem consistent_ofAdditions (adjacency : Adjacency) (additions : List Addition) :
    (ofAdditions adjacency additions).Consistent :=
  ofAdditions_preserves (fun _ _ _ added consistent => consistent_add consistent added)
    (consistent_empty adjacency) additions

/-- A lever-less control can only lose its target's being without lever to a replacement. -/
theorem leverless_iff (targeted : plant.Targeted) :
    plant.Leverless ↔ ∀ earlier later, plant.Replaces later earlier →
      ∀ control, control ∈ plant.throwOuts → control.kind = .withoutLever →
        control.target = later.id → later.lever = none := by
  constructor
  · intro leverless earlier later replaces control listed kind target
    rcases isLeverless_iff.1 (leverless control listed kind) with ⟨definition, found, none⟩
    rw [target, replaces.id_eq] at found
    cases replaces.current.symm.trans found
    exact none
  · intro unchanged control listed kind
    rcases targeted control listed kind with ⟨definition, accepted, target, none⟩
    refine isLeverless_iff.2 ?_
    rw [← target]
    rcases route?_or_replaces accepted with current | ⟨later, replaces⟩
    · exact ⟨definition, current, none⟩
    · exact ⟨later, replaces.current, unchanged definition later replaces control listed kind
        (target.symm.trans replaces.id_eq.symm)⟩

/-- After any additions, the routes of levers and of buttons are listed as they are defined
exactly if no replaced definition had a lever or a button; and the targets of all lever-less
controls are without lever exactly if no replacement has given one to them. -/
theorem indices_agree_unless_replaced (adjacency : Adjacency) (additions : List Addition) :
    ((ofAdditions adjacency additions).Indexes (ofAdditions adjacency additions).routesFromLever
        RouteDefinition.lever ↔
      ∀ earlier later, (ofAdditions adjacency additions).Replaces later earlier →
        earlier.lever = none) ∧
    ((ofAdditions adjacency additions).Indexes (ofAdditions adjacency additions).routesToButton
        RouteDefinition.button ↔
      ∀ earlier later, (ofAdditions adjacency additions).Replaces later earlier →
        earlier.button = none) ∧
    ((ofAdditions adjacency additions).Leverless ↔
      ∀ earlier later, (ofAdditions adjacency additions).Replaces later earlier →
        ∀ control, control ∈ (ofAdditions adjacency additions).throwOuts →
          control.kind = .withoutLever → control.target = later.id → later.lever = none) :=
  ⟨indexes_definedWith_iff, indexes_definedWith_iff,
    leverless_iff (targeted_ofAdditions adjacency additions)⟩

/-- Two routes of one lever, and an addition that is refused. -/
def singleAdditions : List Addition :=
  [.object ⟨1, "TH71_1", .lever, "TH71"⟩, .object ⟨10, "TH71_1RA", .route, "TH71"⟩,
    .object ⟨11, "TH71_1RB", .route, "TH71"⟩, .route ⟨10, some 1, some "TH71_AP", none⟩,
    .route ⟨12, some 1, some "TH71_AP", none⟩, .route ⟨11, some 1, some "TH71_BP", none⟩]

/-- Both routes are listed at their lever. -/
theorem single_definitions_are_indexed :
    (ofAdditions {} singleAdditions).Indexes (ofAdditions {} singleAdditions).routesFromLever
        RouteDefinition.lever ∧
      (ofAdditions {} singleAdditions).routesFromLever 1 = [10, 11] := by
  have once : ((ofAdditions {} singleAdditions).definitions.map RouteDefinition.id).Nodup := by
    decide +kernel
  refine ⟨(indices_agree_unless_replaced {} singleAdditions).1.2 ?_, by decide +kernel⟩
  exact fun earlier later replaces => absurd replaces (not_replaces once)

/-- Two routes that are defined twice.  The first one moves from one lever to another, and the
second one, which is the target of a lever-less control, is given a lever. -/
def redefinedAdditions : List Addition :=
  [.object ⟨1, "TH71_1", .lever, "TH71"⟩, .object ⟨2, "TH71_2", .lever, "TH71"⟩,
    .object ⟨10, "TH71_1R", .route, "TH71"⟩, .object ⟨13, "TH71_5R", .route, "TH71"⟩,
    .route ⟨10, some 1, some "TH71_AP", none⟩, .route ⟨13, none, none, none⟩,
    .throwOut ⟨10, 13, .withoutLever, none, none, none⟩,
    .route ⟨10, some 2, some "TH71_AP", none⟩, .route ⟨13, some 2, none, none⟩]

/-- The first route stays listed at its first lever and is listed twice at its button, and the
control keeps its target. -/
theorem redefined_routes_confuse_indices :
    ¬ (ofAdditions {} redefinedAdditions).Indexes
        (ofAdditions {} redefinedAdditions).routesFromLever RouteDefinition.lever ∧
    ¬ (ofAdditions {} redefinedAdditions).Indexes
        (ofAdditions {} redefinedAdditions).routesToButton RouteDefinition.button ∧
    ¬ (ofAdditions {} redefinedAdditions).Leverless := by
  refine ⟨fun indexes => ?_, fun indexes => ?_, fun leverless => ?_⟩
  · have listed : 10 ∈ (ofAdditions {} redefinedAdditions).routesFromLever 1 := by
      decide +kernel
    have current : (ofAdditions {} redefinedAdditions).route? 10 =
        some ⟨10, some 2, some "TH71_AP", none⟩ := by decide +kernel
    rcases (indexes.mem_iff 1 10).1 listed with ⟨route, found, lever⟩
    cases current.symm.trans found
    cases lever
  · have twice : (ofAdditions {} redefinedAdditions).routesToButton "TH71_AP" = [10, 10] := by
      decide +kernel
    have once := indexes.nodup "TH71_AP"
    rw [twice] at once
    exact absurd once (by decide)
  · have kept : (⟨10, 13, .withoutLever, none, none, none⟩ : ThrowOut) ∈
        (ofAdditions {} redefinedAdditions).throwOuts := by decide +kernel
    have target := leverless _ kept rfl
    exact absurd target (by decide +kernel)

end Database

end SignalBox
