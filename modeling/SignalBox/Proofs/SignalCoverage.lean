import SignalBox.Proofs.Answers
import SignalBox.Proofs.Coverage

namespace SignalBox

/-!
# Where signals find an answer

A signal looks at its track circuit first, at its routes only while that is clear, and at
its direction routes only once a route is cleared.  The kinds of all of these are checked
while loading.  So a signal knows whether it may be passed if its routes are defined, and
a signal whose track circuit is clear only if they are.
-/

namespace SignalNetwork

variable {network : SignalNetwork} {plant : Database}

theorem checkReference_eq_ok {signal : String} {id : ObjectId} {kind : ObjectKind} :
    checkReference plant signal id kind = .ok () ↔ plant.kind id = .ok kind := by
  rw [Database.kind_eq_ok]
  unfold checkReference Database.object
  cases plant.object? id with
  | none => simp
  | some object => by_cases same : object.kind = kind <;> simp [same]

/-- Every reference of a signal of a network that was checked is of its kind. -/
theorem kind_of_checkReferences (checked : network.checkReferences plant = .ok ())
    {name : String} {signal : Signal} (defined : network.signal? name = some signal)
    {id : ObjectId} {kind : ObjectKind} (member : (id, kind) ∈ signal.definition.references) :
    plant.kind id = .ok kind := by
  have listed := Table.mem_values_of_get? defined
  have own := Fallible.forM_eq_ok.1 checked signal listed
  exact checkReference_eq_ok.1 (Fallible.forM_eq_ok.1 own (id, kind) member)

theorem mem_names {name : String} :
    name ∈ network.names ↔ ∃ signal, network.signal? name = some signal := by
  rw [names, Ascending.mem_ofList, Table.mem_keys_iff_get?]
  rfl

end SignalNetwork

namespace Signal

variable {signal : SignalDefinition} {state : State} {plant : Database}
  (covers : state.Covers plant)
include covers

theorem isRouteCleared_succeeds :
    Succeeds (isRouteCleared signal state) ↔ ∀ id, id ∈ signal.routes → id ∈ plant.routeIds := by
  unfold isRouteCleared
  split
  · rw [Fallible.bind_pure_succeeds]
    constructor
    · rintro ⟨values, traversed⟩ id member
      rcases Fallible.mem_of_mapM traversed member with ⟨value, _, own⟩
      rcases Fallible.map_eq_ok.1 own with ⟨relays, entry, _⟩
      exact (covers.route id).1 ⟨relays, entry⟩
    · intro defined
      apply Fallible.mapM_succeeds
      intro id member
      exact Fallible.map_succeeds ((covers.route id).2 (defined id member))
  · rename_i relative
    refine iff_of_true (Fallible.pure_succeeds true) fun id member => ?_
    unfold SignalDefinition.isAbsolute at relative
    cases routes : signal.routes with
    | nil =>
      rw [routes] at member
      cases member
    | cons first rest =>
      rw [routes] at relative
      exact absurd rfl relative

theorem areOnSide_succeeds (side : Side) {routes : List ObjectId}
    (known : ∀ id, id ∈ routes → plant.kind id = .ok .directionRoute) :
    Succeeds (areOnSide state side routes) := by
  induction routes with
  | nil => exact Fallible.pure_succeeds true
  | cons first rest inductionHypothesis =>
    apply Fallible.bind_succeeds ((covers.directionRoute first).2 (known first List.mem_cons_self))
    intro current _
    split
    · exact inductionHypothesis fun id member => known id (List.mem_cons_of_mem first member)
    · exact Fallible.pure_succeeds false

variable (known : ∀ id kind, (id, kind) ∈ signal.references → plant.kind id = .ok kind)
include known

theorem isTrackClear_succeeds : Succeeds (isTrackClear signal state) := by
  unfold isTrackClear
  cases guards : signal.track with
  | none => exact Fallible.pure_succeeds true
  | some track =>
    have circuit : plant.kind track = .ok .trackCircuit := by
      apply known
      simp [SignalDefinition.references, guards]
    exact Fallible.map_succeeds ((covers.track track).2 circuit)

theorem isDirectionSet_succeeds : Succeeds (isDirectionSet signal state) := by
  unfold isDirectionSet
  cases signal.direction with
  | none => exact Fallible.pure_succeeds true
  | some side =>
    apply areOnSide_succeeds covers side
    intro id member
    apply known
    simp [SignalDefinition.references, member]

/-- A signal over defined routes knows whether it may be passed. -/
theorem isProceedable_succeeds (defined : ∀ id, id ∈ signal.routes → id ∈ plant.routeIds) :
    Succeeds (isProceedable signal state) := by
  apply Fallible.bind_succeeds (isTrackClear_succeeds covers known)
  intro track _
  cases track with
  | false => exact Fallible.pure_succeeds false
  | true =>
    apply Fallible.bind_succeeds ((isRouteCleared_succeeds covers).2 defined)
    intro route _
    cases route with
    | false => exact Fallible.pure_succeeds false
    | true => exact isDirectionSet_succeeds covers known

end Signal

end SignalBox
