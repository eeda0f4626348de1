import SignalBox.Lock.Build
import SignalBox.Proofs.Consistency
import SignalBox.Proofs.Substitution

namespace SignalBox

/-!
# What the lock table refers to

A name that a strategy finds is that of an object of the database, and resolving a
condition puts such objects at its leaves.  So every leaf of a lock table that was built
has a kind, and the final track circuit of a route is a track circuit.  That a route at a
leaf is a defined one does not follow: a route that is named exactly only has to be an
object.
-/

/-! ## Objects that strategies find -/

namespace Strategy

variable {plant : Database} {column : LockColumn} {reference : Notation.Reference}
  {strategy : Strategy} {targets : List ObjectId}

/-- What a strategy finds, with what it was found by. -/
inductive Finds (plant : Database) (reference : Notation.Reference) :
    Strategy → List ObjectId → Prop
  | switchingMachine {object : PlantObject}
    (found : plant.findKind? (Naming.switchingMachine reference.plant reference.token)
      .switchingMachine = some object) : Finds plant reference .switchingMachine [object.id]
  | directionRoute {object : PlantObject} {side : Side}
    (sided : Side.ofSuffix? reference.token = some side)
    (found : plant.findKind? (Naming.directionRoute reference.plant
      (String.ofList reference.token.toList.dropLast)) .directionRoute = some object) :
    Finds plant reference .directionRoute [object.id]
  | exactName {object : PlantObject}
    (found : plant.find? (Naming.fullWidth (Naming.route reference.plant reference.token "")) =
      some object)
    (other : object.kind ≠ .switchingMachine) : Finds plant reference .exactName [object.id]
  | routesFromLever {lever : PlantObject} (start : plant.splitLever? reference = some (lever, []))
    (nonempty : plant.routesFromLever lever.id ≠ []) :
    Finds plant reference .routesFromLever (plant.routesFromLever lever.id)
  | leverToButton {lever : PlantObject} {head : Char} {rest : List Char} {control : ThrowOut}
    (start : plant.splitLever? reference = some (lever, head :: rest))
    (between : plant.throwOutsBetween lever.id
      (Naming.button reference.plant (String.ofList (head :: rest))) = [control]) :
    Finds plant reference .leverToButton [control.source, control.target]
  | blockTrackCircuit {object : PlantObject} {name : String}
    (found : plant.findKind? name .trackCircuit = some object) :
    Finds plant reference .blockTrackCircuit [object.id]

/-- A single object that is found has been looked up. -/
private theorem exists_of_single {object : Option PlantObject}
    (found : (.ok (object.map fun object => [object.id]) :
      Except ResolveError (Option (List ObjectId))) = .ok (some targets)) :
    ∃ own, object = some own ∧ targets = [own.id] := by
  rcases Option.map_eq_some_iff.1 (Except.ok.inj found) with ⟨own, same, single⟩
  exact ⟨own, same, single.symm⟩

theorem finds_of_find (found : strategy.find plant reference = .ok (some targets)) :
    Finds plant reference strategy targets := by
  cases strategy with
  | switchingMachine =>
    rcases exists_of_single found with ⟨object, same, rfl⟩
    exact .switchingMachine same
  | directionRoute =>
    simp only [find] at found
    split at found
    · cases found
    · rename_i side sided
      rcases exists_of_single found with ⟨object, same, rfl⟩
      exact .directionRoute sided same
  | exactName =>
    rcases exists_of_single found with ⟨object, same, rfl⟩
    rcases Option.filter_eq_some_iff.1 same with ⟨stored, other⟩
    exact .exactName stored (bne_iff_ne.1 other)
  | routesFromLever =>
    simp only [find] at found
    split at found
    · rename_i lever start
      split at found
      · cases found
      · rename_i nonempty
        cases found
        exact .routesFromLever start fun empty => nonempty (List.isEmpty_iff.2 empty)
    · cases found
  | leverToButton =>
    simp only [find] at found
    split at found
    · rename_i lever head rest start
      split at found
      · cases found
      · rename_i control between
        cases found
        exact .leverToButton start between
      · cases found
    · cases found
  | blockTrackCircuit =>
    rcases exists_of_single found with ⟨object, same, rfl⟩
    exact .blockTrackCircuit same

/-- The first strategy that finds something decides. -/
theorem exists_finds_of_firstOf {strategies : List Strategy}
    (found : firstOf plant column reference strategies = .ok targets) :
    ∃ strategy : Strategy, strategy.applies column reference.plant = true ∧
      Finds plant reference strategy targets := by
  induction strategies with
  | nil => cases found
  | cons strategy rest inductionHypothesis =>
    rcases Fallible.bind_eq_ok.1 found with ⟨outcome, attempted, later⟩
    cases outcome with
    | none => exact inductionHypothesis later
    | some own =>
      cases later
      unfold attempt at attempted
      split at attempted
      · rename_i applies
        exact ⟨strategy, applies, finds_of_find attempted⟩
      · cases attempted

/-- A strategy that finds something finds at least one object. -/
theorem Finds.ne_nil (finds : Finds plant reference strategy targets) : targets ≠ [] := by
  cases finds with
  | routesFromLever start nonempty => exact nonempty
  | _ => exact List.cons_ne_nil _ _

/-- The kinds of the objects that a strategy looks for. -/
def LooksFor : Strategy → ObjectKind → Prop
  | switchingMachine, kind => kind = .switchingMachine
  | directionRoute, kind => kind = .directionRoute
  | exactName, kind => kind ≠ .switchingMachine
  | routesFromLever, kind => kind = .route
  | leverToButton, kind => kind = .route
  | blockTrackCircuit, kind => kind = .trackCircuit

section Kinds

variable (consistent : plant.Consistent)
include consistent

private theorem kind_of_findKind? {name : String} {kind : ObjectKind} {object : PlantObject}
    (found : plant.findKind? name kind = some object) : plant.kind object.id = .ok kind := by
  rcases Option.filter_eq_some_iff.1 found with ⟨stored, same⟩
  rw [← beq_iff_eq.1 same]
  exact consistent.kind_of_find? stored

private theorem kind_of_definitions {listed : RouteDefinition → Bool} {target : ObjectId}
    (member : target ∈ (plant.definitions.filter listed).map RouteDefinition.id) :
    plant.kind target = .ok .route := by
  rcases List.mem_map.1 member with ⟨definition, kept, same⟩
  rw [← same]
  exact consistent.route definition (List.mem_filter.1 kept).1

/-- Whatever a strategy finds is an object of a kind that it looks for. -/
theorem Finds.exists_kind (finds : Finds plant reference strategy targets) {target : ObjectId}
    (member : target ∈ targets) :
    ∃ kind, plant.kind target = .ok kind ∧ strategy.LooksFor kind := by
  cases finds with
  | switchingMachine found =>
    rw [List.mem_singleton.1 member]
    exact ⟨_, kind_of_findKind? consistent found, rfl⟩
  | directionRoute sided found =>
    rw [List.mem_singleton.1 member]
    exact ⟨_, kind_of_findKind? consistent found, rfl⟩
  | exactName found other =>
    rw [List.mem_singleton.1 member]
    exact ⟨_, consistent.kind_of_find? found, other⟩
  | routesFromLever start nonempty => exact ⟨_, kind_of_definitions consistent member, rfl⟩
  | @leverToButton lever head rest control start between =>
    -- The source is listed at the lever and the target at the button.
    rcases List.mem_filter.1 (between ▸ List.mem_singleton_self control) with ⟨listed, button⟩
    rcases List.mem_flatMap.1 listed with ⟨source, own, kept⟩
    rcases List.mem_cons.1 member with first | second
    · rw [first, beq_iff_eq.1 (List.mem_filter.1 kept).2]
      exact ⟨_, kind_of_definitions consistent own, rfl⟩
    · rw [List.mem_singleton.1 second]
      exact ⟨_, kind_of_definitions consistent (List.contains_iff_mem.1 button), rfl⟩
  | blockTrackCircuit found =>
    rw [List.mem_singleton.1 member]
    exact ⟨_, kind_of_findKind? consistent found, rfl⟩

end Kinds

end Strategy

namespace Database

/-- The first leaf without targets decides why a condition cannot be resolved. -/
theorem resolve_eq_error {plant : Database} {column : LockColumn} {tree : Notation.Tree}
    {error : ResolveError} :
    plant.resolve column tree = .error error ↔
      FailsFirst (plant.targets column) error tree.leaves :=
  Condition.expand_eq_error.trans FailsFirst.map_iff

/-- Every leaf of a resolved condition is an object. -/
theorem kind_of_resolve {plant : Database} (consistent : plant.Consistent)
    {column : LockColumn} {tree : Notation.Tree} {clause : Clause}
    (resolved : plant.resolve column tree = .ok clause) {leaf : Requirement}
    (member : leaf ∈ clause.leaves) : Succeeds (plant.kind leaf.target) := by
  rcases Condition.mem_leaves_expand resolved member with ⟨reference, _, values, given, listed⟩
  rcases Fallible.map_eq_ok.1 given with ⟨targets, found, rfl⟩
  rcases List.mem_map.1 listed with ⟨target, targetMember, rfl⟩
  rcases Strategy.exists_finds_of_firstOf found with ⟨strategy, _, finds⟩
  rcases finds.exists_kind consistent targetMember with ⟨kind, known, _⟩
  exact ⟨kind, known⟩

/-- A lock lever is a direction route. -/
theorem kind_of_resolveDirectionRoute {plant : Database} (consistent : plant.Consistent)
    {column : LockColumn} {reference : Notation.Reference} {found : Requirement}
    (resolved : plant.resolveDirectionRoute column reference = .ok found) :
    plant.kind found.target = .ok .directionRoute := by
  rcases Fallible.bind_eq_ok.1 resolved with ⟨outcome, attempted, later⟩
  split at later
  · rename_i target rest
    cases later
    unfold Strategy.attempt at attempted
    split at attempted
    · have finds := Strategy.finds_of_find attempted
      rcases finds.exists_kind consistent List.mem_cons_self with ⟨kind, known, rfl⟩
      exact known
    · cases attempted
  · cases later

end Database

/-! ## Entries of the lock table -/

/-- The leaves of an entry are objects, a final track circuit is a track circuit, and a lock lever
a direction route. -/
def LockEntry.Known (plant : Database) : LockEntry → Prop
  | clause _ _ tree => ∀ leaf, leaf ∈ tree.leaves → Succeeds (plant.kind leaf.target)
  | finalTrack _ track => plant.kind track = .ok .trackCircuit
  | lockLever _ _ _ lever => plant.kind lever.directionRoute = .ok .directionRoute

namespace LockRow

variable {plant : Database} {config : EngineConfig} {row : LockRow}

theorem kind_of_lastTrack? {tree : Clause} {track : ObjectId}
    (last : lastTrack? plant tree = some track) : plant.kind track = .ok .trackCircuit := by
  rcases Option.map_eq_some_iff.1 last with ⟨leaf, found, rfl⟩
  have circuit := List.find?_some found
  rcases Option.any_eq_true _ _ |>.1 circuit with ⟨object, stored, kind⟩
  exact Database.kind_eq_ok.2 ⟨object, stored, beq_iff_eq.1 kind⟩

theorem known_resolvedEntries {owner : PlantObject} {tree : Clause}
    (known : ∀ leaf, leaf ∈ tree.leaves → Succeeds (plant.kind leaf.target)) {value : LockEntry}
    (member : value ∈ row.resolvedEntries plant owner tree) : value.Known plant := by
  rcases List.mem_append.1 member with track | clause
  · split at track
    · rcases List.mem_map.1 track with ⟨last, found, rfl⟩
      exact kind_of_lastTrack? (Option.mem_toList.1 found)
    · cases track
  · rw [List.mem_singleton.1 clause]
    exact known

theorem entry_ne_unresolved {value : LockEntry} {error : ResolveError} :
    .entry value ≠ row.unresolved config error := by
  intro same
  unfold unresolved at same
  split at same
  · split at same <;> cases same
  · cases same

variable (consistent : plant.Consistent)
include consistent

/-- A direction-lock cell contributes nothing but lock levers. -/
theorem known_readDirectionLock {owner : PlantObject} {side : Side}
    {cell : Option Notation.Cell} {value : LockEntry}
    (same : .entry value = row.readDirectionLock plant config owner side cell) :
    value.Known plant := by
  unfold readDirectionLock at same
  split at same
  · cases same
  · split at same
    · split at same
      · rename_i resolved
        cases same
        exact Database.kind_of_resolveDirectionRoute consistent resolved
      · exact absurd same entry_ne_unresolved
    · cases same

theorem known_readTree {owner : PlantObject} {tree : Notation.Tree} {value : LockEntry}
    (member : .entry value ∈ row.readTree plant config owner tree) : value.Known plant := by
  unfold readTree at member
  split at member
  · rename_i resolved found
    rcases List.mem_map.1 member with ⟨entry, listed, same⟩
    cases same
    exact known_resolvedEntries (fun _ => Database.kind_of_resolve consistent found) listed
  · exact absurd (List.mem_singleton.1 member) entry_ne_unresolved

/-- Every entry that a row contributes is known. -/
theorem known_read {value : LockEntry} (member : .entry value ∈ row.read plant config) :
    value.Known plant := by
  unfold read at member
  split at member
  · cases member
  · split at member
    · rename_i owner _
      unfold readOwned at member
      split at member
      · cases List.mem_singleton.1 member
      · split at member
        · exact known_readDirectionLock consistent (List.mem_singleton.1 member)
        · rcases List.mem_flatMap.1 member with ⟨tree, _, inside⟩
          exact known_readTree consistent inside
    · split at member <;> cases List.mem_singleton.1 member

end LockRow

namespace LockTable

variable {plant : Database}

/-- Every leaf of every condition is an object, and final track circuits are track
circuits. -/
structure Known (plant : Database) (table : LockTable) : Prop where
  clauses : ∀ object kind tree, tree ∈ table.clausesOf object kind →
    ∀ leaf, leaf ∈ tree.leaves → Succeeds (plant.kind leaf.target)
  finalTracks : ∀ route track, table.finalTrack? route = some track →
    plant.kind track = .ok .trackCircuit

theorem known_empty : Known plant {} where
  clauses object kind tree impossible := by cases impossible
  finalTracks route track impossible := by cases impossible

theorem mem_leaves_join {leaf : Requirement} {stored tree : Clause} :
    leaf ∈ (stored.join tree).leaves ↔ leaf ∈ stored.leaves ∨ leaf ∈ tree.leaves := by
  cases stored with
  | all parts =>
    rw [Clause.join, Condition.leaves, Condition.leavesOf_eq, List.flatMap_append,
      ← Condition.leavesOf_eq, List.mem_append]
    simp [Condition.leaves]
  | _ => simp [Clause.join, Condition.leaves, Condition.leavesOf]

/-- What joining keeps, every condition has that is stored once a further one is added. -/
theorem forall_mem_extend {property : Clause → Prop} {kind : LockKind} {stored : List Clause}
    {tree : Clause}
    (joined : ∀ first other, property first → property other → property (first.join other))
    (old : ∀ first ∈ stored, property first) (new : property tree) :
    ∀ other ∈ extend kind stored tree, property other := by
  unfold extend
  split
  · rw [List.forall_mem_append, List.forall_mem_singleton]
    exact ⟨old, new⟩
  · split
    · rw [List.forall_mem_singleton]
      exact new
    · rw [List.forall_mem_singleton]
      exact joined _ _ (old _ List.mem_cons_self) new

theorem known_insert {table : LockTable} (known : table.Known plant) {object : ObjectId}
    {kind : LockKind} {tree : Clause}
    (leaves : ∀ leaf, leaf ∈ tree.leaves → Succeeds (plant.kind leaf.target)) :
    (table.insert object kind tree).Known plant where
  clauses other otherKind stored member := by
    unfold clausesOf insert at member
    rw [Table.get?_insert] at member
    by_cases same : (object, kind) = (other, otherKind)
    · rw [if_pos same] at member
      refine forall_mem_extend ?_ (known.clauses object kind) leaves stored member
      intro first second own further leaf inside
      exact (mem_leaves_join.1 inside).elim (own leaf) (further leaf)
    · rw [if_neg same] at member
      exact known.clauses other otherKind stored member
  finalTracks := known.finalTracks

theorem known_registerFinalTrack {table : LockTable} (known : table.Known plant)
    {route track : ObjectId} (circuit : plant.kind track = .ok .trackCircuit) :
    (table.registerFinalTrack route track).Known plant := by
  unfold registerFinalTrack
  split
  · exact known
  · refine ⟨known.clauses, fun other found registered => ?_⟩
    unfold finalTrack? at registered
    rw [Table.get?_insert] at registered
    by_cases same : route = other
    · rw [if_pos same] at registered
      cases registered
      exact circuit
    · rw [if_neg same] at registered
      exact known.finalTracks other found registered

theorem known_enter {table : LockTable} (known : table.Known plant) {value : LockEntry}
    (own : value.Known plant) : (table.enter value).Known plant := by
  cases value with
  | clause owner kind tree => exact known_insert known own
  | finalTrack route track => exact known_registerFinalTrack known own
  | lockLever owner side single lever => exact ⟨known.clauses, known.finalTracks⟩

/-- What every entry of a list keeps, taking the list keeps. -/
theorem take_preserves {property : LockTable → Prop} {contributions : List Contribution}
    (preserved : ∀ value, .entry value ∈ contributions → ∀ table, property table →
      property (table.enter value))
    {table last : LockTable} (initial : property table)
    (taken : (table.take contributions).2 = .ok last) : property last := by
  induction contributions generalizing table with
  | nil =>
    cases taken
    exact initial
  | cons contribution rest inductionHypothesis =>
    have later : ∀ value, .entry value ∈ rest → ∀ table, property table →
        property (table.enter value) :=
      fun value member => preserved value (List.mem_cons_of_mem contribution member)
    cases contribution with
    | entry value =>
      have entered := preserved value List.mem_cons_self table initial
      exact inductionHypothesis later entered taken
    | skip notice => exact inductionHypothesis later initial taken
    | fault error => cases taken

/-- A table that was built has taken the contributions of all rows. -/
theorem take_of_build {config : EngineConfig} {rows : List LockRow} {table : LockTable}
    (built : (build plant config rows).2 = .ok table) :
    (({} : LockTable).take (rows.flatMap (LockRow.read plant config))).2 = .ok table := by
  unfold build at built
  rcases contributed : ({} : LockTable).take (rows.flatMap (LockRow.read plant config)) with
    ⟨skips, outcome⟩
  rw [contributed] at built
  cases outcome with
  | error error => cases built
  | ok last => exact built

/-- A lock table that is built over a consistent database refers to its objects. -/
theorem known_of_build (consistent : plant.Consistent) {config : EngineConfig}
    {rows : List LockRow} {table : LockTable} (built : (build plant config rows).2 = .ok table) :
    table.Known plant := by
  refine take_preserves (fun value member table known => ?_) known_empty (take_of_build built)
  rcases List.mem_flatMap.1 member with ⟨row, _, inside⟩
  exact known_enter known (LockRow.known_read consistent inside)

theorem Known.clause? {table : LockTable} (known : table.Known plant) {object : ObjectId}
    {kind : LockKind} {tree : Clause} (stored : table.clause? object kind = some tree)
    {leaf : Requirement} (member : leaf ∈ tree.leaves) : Succeeds (plant.kind leaf.target) :=
  known.clauses object kind tree (List.mem_of_head? stored) leaf member

end LockTable

end SignalBox
