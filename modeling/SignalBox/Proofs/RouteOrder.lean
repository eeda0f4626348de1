import SignalBox.Proofs.InertControls
import SignalBox.Proofs.SideBySide

namespace SignalBox

/-!
# The order of the routes

A cycle visits the routes in ascending order, and routes look at each other's relays.  The order
would matter if a route could see what its stage has found for a route before it.  It cannot: a stage
finds for a route what it would find in a visit to this route alone, and writes only when it has
visited all of them.

Two facts make a cycle independent of the order.  Traversals in different orders succeed together,
with the same results up to their order; and the effect of a stage is determined by which routes it
visits.  Since the next stage starts from the same state in either case, nothing of the order is left
but the order of the report, and the fault where a stage fails.
-/

open Fallible (Matched)

namespace Stage

variable {stage : Stage} {box : Interlocking} {routes others : List ObjectId}
  {state reached other : State} {id : ObjectId}

/-! ## One stage -/

/-- What a stage does to a state is determined by the routes that it visits. -/
theorem Effect.unique (effect : Effect stage box routes state reached)
    (effectOther : Effect stage box others state other)
    (same : ∀ id, id ∈ routes ↔ id ∈ others) : reached = other := by
  have written : reached.routes = other.routes := by
    refine Table.ext_get? (effect.keys.trans effectOther.keys.symm) fun id => ?_
    by_cases visited : id ∈ routes
    · rcases effect.written id visited with ⟨current, relays, entry, given, after⟩
      rcases effectOther.written id ((same id).1 visited) with ⟨_, _, again, taken, afterOther⟩
      cases entry.symm.trans again
      cases given.symm.trans taken
      rw [State.entry_eq_ok.1 after, State.entry_eq_ok.1 afterOther]
    · rw [effect.others id visited, effectOther.others id (mt (same id).2 visited)]
  rw [effect.rest, effectOther.rest, written]

/-- In another order a stage finds the same changes in another order. -/
theorem changes_perm (stage : Stage) (box : Interlocking) (state : State)
    (order : routes.Perm others) :
    Matched List.Perm (stage.changes box routes state) (stage.changes box others state) :=
  (Matched.mapM_perm order).map fun _ _ same => same.flatten

theorem changes_cons :
    stage.changes box (id :: routes) state =
      (stage.changesOf box state id >>= fun own =>
        (stage.changes box routes state).map fun found => own ++ found) := by
  unfold changes
  rw [List.mapM_cons]
  cases stage.changesOf box state id with
  | error missing => rfl
  | ok own => cases routes.mapM (stage.changesOf box state) <;> rfl

/-- What a stage finds for a route is marked with it. -/
theorem filter_changesOf {own : List RelayChange}
    (found : stage.changesOf box state id = .ok own) (route : ObjectId) :
    own.filter (fun change => change.route == route) = if id = route then own else [] := by
  rcases changesOf_eq_ok.1 found with ⟨current, relays, _, _, rfl⟩
  have marked : ∀ change, change ∈ RelayChange.differences id current relays →
      change.route = id := fun change member => (RelayChange.mem_differences.1 member).1
  by_cases same : id = route
  · rw [if_pos same, List.filter_eq_self]
    exact fun change member => beq_iff_eq.2 ((marked change member).trans same)
  · rw [if_neg same, List.filter_eq_nil_iff]
    exact fun change member named => same ((marked change member).symm.trans (beq_iff_eq.1 named))

/-- Routes that a stage does not visit have no changes. -/
theorem filter_changes_of_not_mem {found : List RelayChange}
    (computed : stage.changes box routes state = .ok found) (unvisited : id ∉ routes) :
    found.filter (fun change => change.route == id) = [] := by
  refine List.filter_eq_nil_iff.2 fun change listed named => unvisited ?_
  rcases (mem_changes computed).1 listed with ⟨route, visited, _, _, _, _, member⟩
  rw [← beq_iff_eq.1 named, (RelayChange.mem_differences.1 member).1]
  exact visited

/-- Among all changes of a stage those of one route are what the stage finds for it. -/
theorem changesOf_eq_filter {found : List RelayChange}
    (computed : stage.changes box routes state = .ok found) (once : routes.Nodup)
    (visited : id ∈ routes) :
    stage.changesOf box state id = .ok (found.filter fun change => change.route == id) := by
  induction routes generalizing found with
  | nil => cases visited
  | cons first rest inductionHypothesis =>
    rw [changes_cons] at computed
    rcases Fallible.bind_eq_ok.1 computed with ⟨own, head, behind⟩
    rcases Fallible.map_eq_ok.1 behind with ⟨later, tail, rfl⟩
    rw [List.nodup_cons] at once
    rw [List.filter_append, filter_changesOf head]
    rcases List.mem_cons.1 visited with rfl | member
    · rw [if_pos rfl, filter_changes_of_not_mem tail once.1, List.append_nil]
      exact head
    · have distinct : first ≠ id := fun same => once.1 (same ▸ member)
      rw [if_neg distinct, List.nil_append]
      exact inductionHypothesis tail once.2 member

/-- A stage that visits several routes does for each of them what it would do in a visit to this
route alone. -/
theorem perform_alone {found : List RelayChange}
    (performed : stage.perform box routes state = (reached, .ok found)) (once : routes.Nodup)
    (visited : id ∈ routes) :
    ∃ alone, stage.perform box [id] state =
        (alone, .ok (found.filter fun change => change.route == id)) ∧
      reached.routes.get? id = alone.routes.get? id := by
  rw [perform_eq] at performed
  cases computed : stage.changes box routes state with
  | error missing =>
    rw [computed] at performed
    cases performed
  | ok _ =>
    rw [computed] at performed
    cases performed
    have single : stage.changes box [id] state =
        .ok (found.filter fun change => change.route == id) := by
      rw [changes_cons, changesOf_eq_filter computed once visited]
      exact congrArg Except.ok (List.append_nil _)
    refine ⟨_, by rw [perform_eq, single], ?_⟩
    rw [State.get?_foldl_record, State.get?_foldl_record, List.filter_filter]
    simp only [Bool.and_self]

/-- The stages of a cycle, each over its own order of the same routes. -/
theorem performAll_perm {orders routes : Stage → List ObjectId}
    (order : ∀ stage, (orders stage).Perm (routes stage)) (stages : List Stage) (state : State) :
    (performAll box orders state stages).1 = (performAll box routes state stages).1 ∧
      Matched List.Perm (performAll box orders state stages).2
        (performAll box routes state stages).2 := by
  refine performAll_matched .nil (fun _ _ _ _ same behind => same.append behind)
    (fun stage state => changes_perm stage box state (order stage)) ?_ stages state
  intro stage state found image computed computedOther
  exact (effect_of_changes computed).unique (effect_of_changes computedOther)
    fun id => (order stage).mem_iff

end Stage

namespace Interlocking

/-- A cycle may visit the routes in any order, another one in each stage.  It succeeds or fails all
the same and leaves the same state, and where it succeeds it reports the same changes in another
order.  For in every stage, whatever it starts from, each route is given the relays and has the
changes that it would have if it were the only one. -/
theorem route_order_keeps_cycles (box : Interlocking) (state : State)
    {routes : Stage → List ObjectId} (order : ∀ stage, (routes stage).Perm box.plant.routeIds) :
    (Succeeds (Stage.performAll box routes state Stage.order).2 ↔
      Succeeds (box.sweep state).2) ∧
    (Stage.performAll box routes state Stage.order).1 = (box.sweep state).1 ∧
    (∀ changes, (Stage.performAll box routes state Stage.order).2 = .ok changes →
      ∃ report, (box.sweep state).2 = .ok report ∧ changes.Perm report.changes) ∧
    ∀ (stage : Stage) start reached found,
      stage.perform box (routes stage) start = (reached, .ok found) →
      ∀ id, id ∈ box.plant.routeIds → ∃ alone own,
        stage.perform box [id] start = (alone, .ok own) ∧
        reached.routes.get? id = alone.routes.get? id ∧
        (found.filter fun change => change.route == id) = own := by
  rcases Stage.performAll_perm order Stage.order state with ⟨same, matched⟩
  have once : ∀ stage, (routes stage).Nodup :=
    fun stage => (order stage).nodup_iff.2 (Ascending.nodup_ofList _)
  refine ⟨matched.succeeds_iff.trans ⟨Fallible.map_succeeds, ?_⟩, same, ?_, ?_⟩
  · rintro ⟨report, done⟩
    rcases Fallible.map_eq_ok.1 done with ⟨changes, found, _⟩
    exact ⟨changes, found⟩
  · intro changes found
    rcases matched.exists_of_eq_ok found with ⟨others, ordered, permuted⟩
    exact ⟨⟨others⟩, Fallible.map_eq_ok.2 ⟨others, ordered, rfl⟩, permuted⟩
  · intro stage start reached found performed id defined
    rcases Stage.perform_alone performed (once stage) ((order stage).mem_iff.2 defined) with
      ⟨alone, own, given⟩
    exact ⟨alone, _, own, given, rfl⟩

/-- Another order in each stage.  The lever stage comes to the first route last, after the route that
this one takes over. -/
def entangledOrder : Stage → List ObjectId
  | .lever => [12, 11, 10]
  | .route => [11, 12, 10]
  | .signalControl => [10, 11, 12]

theorem entangled_sweep_in_another_order :
    ∃ state changes report,
      (State.initial entangled.plant default).mutate (.lever 1 .right) = .ok state ∧
      Stage.performAll entangled entangledOrder state Stage.order =
        ((entangled.sweep state).1, .ok changes) ∧
      (entangled.sweep state).2 = .ok report ∧ changes ≠ report.changes ∧
      changes.Perm report.changes := by
  have order : ∀ stage, (entangledOrder stage).Perm entangled.plant.routeIds := by
    intro stage
    cases stage <;> decide +kernel
  have checked : ((State.initial entangled.plant default).mutate (.lever 1 .right)).toOption.any
      (fun state => (Stage.performAll entangled entangledOrder state Stage.order).2.toOption.any
        fun changes => (entangled.sweep state).2.toOption.any
          fun report => changes != report.changes) = true := by
    decide +kernel
  rcases Fallible.exists_of_any checked with ⟨state, mutated, found⟩
  rcases Fallible.exists_of_any found with ⟨changes, visited, differ⟩
  rcases Fallible.exists_of_any differ with ⟨report, swept, unequal⟩
  rcases route_order_keeps_cycles entangled state order with ⟨_, same, reported, _⟩
  rcases reported changes visited with ⟨other, again, permuted⟩
  cases swept.symm.trans again
  exact ⟨state, changes, report, mutated, Prod.ext same visited, swept, bne_iff_ne.1 unequal,
    permuted⟩

end Interlocking

end SignalBox
