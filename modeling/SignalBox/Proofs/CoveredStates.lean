import Mathlib.Logic.Function.Iterate
import SignalBox.Proofs.Completeness
import SignalBox.Proofs.RouteIndices
import SignalBox.Proofs.RowOrder

namespace SignalBox

/-!
# States in which no cycle fails

A state covers an interlocking if it has an entry for everything that definitions, controls and
conditions name.  This is said without regard to what a cycle looks at and when, so that it can be
checked by going through the plant and the table once.

It says nothing about the track circuits in which approach locks end, which are kept apart from the
conditions.  A covered state has entries for them all the same: such a track circuit was found at a
leaf of an approach lock, and the table has kept this condition, whatever has been joined to it
since.
-/

/-! ## Where approach locks end -/

namespace LockRow

variable {plant : Database} {config : EngineConfig} {row : LockRow} {owner : PlantObject}
  {route track : ObjectId}

theorem leaf_of_lastTrack? {tree : Clause} (last : lastTrack? plant tree = some track) :
    ∃ leaf, leaf ∈ tree.leaves ∧ leaf.target = track := by
  rcases Option.map_eq_some_iff.1 last with ⟨leaf, found, same⟩
  exact ⟨leaf, List.mem_reverse.1 (List.mem_of_find?_eq_some found), same⟩

theorem finalTrack_ne_readDirectionLock {side : Side} {cell : Option Notation.Cell} :
    .entry (.finalTrack route track) ≠ row.readDirectionLock plant config owner side cell := by
  intro same
  unfold readDirectionLock at same
  split at same
  · cases same
  · split at same
    · split at same
      · cases same
      · exact entry_ne_unresolved same
    · cases same

/-- A condition of a route that ends in a track circuit is an approach lock, and it is contributed
together with the track circuit. -/
theorem clause_of_finalTrack_readTree {tree : Notation.Tree}
    (member : .entry (.finalTrack route track) ∈ row.readTree plant config owner tree) :
    ∃ resolved, .entry (.clause route .approachLock resolved) ∈
        row.readTree plant config owner tree ∧ lastTrack? plant resolved = some track := by
  unfold readTree at member ⊢
  cases found : plant.resolve row.column tree with
  | error error =>
    rw [found] at member
    exact absurd (List.mem_singleton.1 member) entry_ne_unresolved
  | ok resolved =>
    rw [found] at member
    rcases List.mem_map.1 member with ⟨value, listed, same⟩
    cases same
    unfold resolvedEntries at listed ⊢
    rcases List.mem_append.1 listed with ends | clause
    · split at ends
      · rename_i approach
        rcases List.mem_map.1 ends with ⟨last, given, same⟩
        cases same
        refine ⟨resolved, List.mem_map.2 ⟨_, List.mem_append_right _ ?_, rfl⟩,
          Option.mem_toList.1 given⟩
        rw [approach.1]
        exact List.mem_singleton_self _
      · cases ends
    · cases List.mem_singleton.1 clause

theorem clause_of_finalTrack
    (member : .entry (.finalTrack route track) ∈ row.read plant config) :
    ∃ resolved, .entry (.clause route .approachLock resolved) ∈ row.read plant config ∧
      lastTrack? plant resolved = some track := by
  unfold read at member ⊢
  split at member
  · cases member
  · rename_i loaded
    rw [if_neg loaded]
    cases found : plant.find? row.object with
    | none =>
      rw [found] at member
      dsimp only at member
      split at member <;> cases List.mem_singleton.1 member
    | some owner =>
      rw [found] at member
      dsimp only at member ⊢
      unfold readOwned at member ⊢
      cases parsed : Notation.parse ⟨plant.adjacency, row.plant, row.column⟩ row.raw with
      | error cause =>
        rw [parsed] at member
        cases List.mem_singleton.1 member
      | ok cell =>
        rw [parsed] at member
        dsimp only at member ⊢
        cases direction : row.column.directionSide? with
        | some side =>
          rw [direction] at member
          exact absurd (List.mem_singleton.1 member) finalTrack_ne_readDirectionLock
        | none =>
          rw [direction] at member
          rcases List.mem_flatMap.1 member with ⟨tree, listed, inside⟩
          rcases clause_of_finalTrack_readTree inside with ⟨resolved, own, last⟩
          exact ⟨resolved, List.mem_flatMap.2 ⟨tree, listed, own⟩, last⟩

end LockRow

namespace LockTable

variable {plant : Database} {config : EngineConfig} {rows : List LockRow} {table : LockTable}

/-- The final track circuit of every route stands at a leaf of its approach lock. -/
def EndsInApproach (plant : Database) (table : LockTable) : Prop :=
  ∀ route track, table.finalTrack? route = some track →
    plant.kind track = .ok .trackCircuit ∧ ∃ tree leaf,
      table.clause? route .approachLock = some tree ∧ leaf ∈ tree.leaves ∧ leaf.target = track

/-- A final track circuit has been contributed by some row. -/
theorem entry_of_finalTrack? (built : (build plant config rows).2 = .ok table)
    {route track : ObjectId} (ends : table.finalTrack? route = some track) :
    .entry (.finalTrack route track) ∈ rows.flatMap (LockRow.read plant config) := by
  refine @take_preserves (fun last => ∀ route track, last.finalTrack? route = some track →
    .entry (.finalTrack route track) ∈ rows.flatMap (LockRow.read plant config)) _
    (fun value member before known route track registered => ?_) {} table nofun
    (take_of_build built) route track ends
  cases value with
  | clause owner kind tree => exact known route track registered
  | lockLever owner side single lever => exact known route track registered
  | finalTrack owner last =>
    simp only [enter, registerFinalTrack] at registered
    split at registered
    · exact known route track registered
    · rw [finalTrack?, Table.get?_insert] at registered
      split at registered
      · rename_i same
        cases registered
        exact same ▸ member
      · exact known route track registered

theorem endsInApproach_of_build (built : (build plant config rows).2 = .ok table) :
    table.EndsInApproach plant := by
  intro route track ends
  rcases List.mem_flatMap.1 (entry_of_finalTrack? built ends) with ⟨row, listed, member⟩
  rcases LockRow.clause_of_finalTrack member with ⟨resolved, own, last⟩
  have contributed : resolved ∈ contributions plant config rows (route, .approachLock) := by
    rw [← filterMap_flatMap_read]
    exact List.mem_filterMap.2 ⟨_, List.mem_flatMap.2 ⟨row, listed, own⟩, if_pos rfl⟩
  rcases exists_clause?_of_build built (by decide) (List.ne_nil_of_mem contributed) with
    ⟨tree, stored, joins⟩
  rcases LockRow.leaf_of_lastTrack? last with ⟨leaf, inside, target⟩
  refine ⟨LockRow.kind_of_lastTrack? last, tree, leaf, stored, ?_, target⟩
  rw [joins.leaves]
  exact List.mem_flatMap.2 ⟨resolved, contributed, inside⟩

/-- A condition that is stored may be joined to others, but its leaves stay. -/
theorem exists_clause?_insert {object other : ObjectId} {kind otherKind : LockKind}
    {stored : Clause} (old : table.clause? other otherKind = some stored) (tree : Clause) :
    ∃ now, (table.insert object kind tree).clause? other otherKind = some now ∧
      ∀ leaf, leaf ∈ stored.leaves → leaf ∈ now.leaves := by
  unfold clause? clausesOf insert
  rw [Table.get?_insert]
  by_cases same : (object, kind) = (other, otherKind)
  · cases same
    rcases List.head?_eq_some_iff.1 old with ⟨rest, first⟩
    rw [if_pos rfl, Option.getD_some, first]
    unfold extend
    split
    · exact ⟨stored, rfl, fun _ inside => inside⟩
    · exact ⟨stored.join tree, rfl, fun _ inside => mem_leaves_join.2 (.inl inside)⟩
  · rw [if_neg same]
    exact ⟨stored, old, fun _ inside => inside⟩

/-- The table with further conditions inserted one after another. -/
def insertAll (table : LockTable) (further : List (ObjectId × LockKind × Clause)) : LockTable :=
  further.foldl (fun table entry => table.insert entry.1 entry.2.1 entry.2.2) table

theorem EndsInApproach.insertAll (ends : table.EndsInApproach plant)
    (further : List (ObjectId × LockKind × Clause)) :
    (table.insertAll further).EndsInApproach plant := by
  refine List.foldlRecOn further _ ends fun before known entry _ => ?_
  intro route track registered
  rcases known route track registered with ⟨circuit, tree, leaf, stored, inside, target⟩
  rcases exists_clause?_insert stored entry.2.2 with ⟨now, joined, kept⟩
  exact ⟨circuit, now, leaf, joined, kept leaf inside, target⟩

end LockTable

/-! ## Covered states -/

namespace Interlocking

variable {box : Interlocking} {state : State}

/-- The state has an entry for everything that a definition, a control or a condition of a defined
route names, and controls between routes are controls between defined ones. -/
structure Covered (box : Interlocking) (state : State) : Prop where
  equips : state.Equips box.plant
  ends : ∀ control, control ∈ box.plant.throwOuts →
    box.plant.kind control.source = .ok .route → box.plant.kind control.target = .ok .route →
      control.source ∈ box.plant.routeIds ∧ control.target ∈ box.plant.routeIds
  guard : ∀ control, control ∈ box.plant.throwOuts →
    box.plant.kind control.source = .ok .route → box.plant.kind control.target = .ok .route →
      ∀ lever, control.conditionLever = some lever → Succeeds (state.keyLever lever)
  leaves : ∀ id, id ∈ box.plant.routeIds →
    ∀ kind, kind ∈ [LockKind.directLock, .signalControl, .approachLock] →
      ∀ leaf, leaf ∈ box.leavesAt id kind → box.Provides state leaf.target

namespace Covered

variable (covered : box.Covered state)
include covered

theorem of_sameKeys {reached : State} (same : State.SameKeys reached state) :
    box.Covered reached where
  equips := covered.equips.of_sameKeys same
  ends := covered.ends
  guard control listed source target lever named :=
    (State.entry_succeeds_congr same.keyLevers).2
      (covered.guard control listed source target lever named)
  leaves id defined kind among leaf member :=
    (covered.leaves id defined kind among leaf member).of_sameKeys same

/-- The track circuits in which approach locks end have entries, as these locks have leaves there. -/
theorem supplies (consistent : box.plant.Consistent)
    (ends : box.locks.EndsInApproach box.plant) : box.Supplies state where
  equips := covered.equips
  directLock id defined := covered.leaves id defined .directLock (by decide)
  signalControl id defined := covered.leaves id defined .signalControl (by decide)
  approachLock id defined leaf member := by
    rcases covered.leaves id defined .approachLock (by decide) leaf member with
      ⟨kind, known, entry⟩
    refine ⟨⟨kind, known⟩, fun circuit => ?_⟩
    cases known.symm.trans circuit
    exact entry
  finalTrack id track defined registered := by
    rcases ends id track registered with ⟨circuit, tree, leaf, stored, inside, rfl⟩
    have member : leaf ∈ box.leavesAt id .approachLock := by
      rw [leavesAt, stored]
      exact inside
    rcases covered.leaves id defined .approachLock (by decide) leaf member with
      ⟨kind, known, entry⟩
    cases known.symm.trans circuit
    exact entry
  ends control listed reaches :=
    covered.ends control listed (consistent.source control listed) reaches.1
  guard control listed reaches :=
    covered.guard control listed (consistent.source control listed) reaches.1

end Covered

/-- In a covered state every stage succeeds, and so does the cycle, which leaves a covered state.  So
however many cycles follow one another, none of them fails. -/
theorem covered_states_never_fail {adjacency : Adjacency} {additions : List Addition}
    {config : EngineConfig} {rows : List LockRow} {table : LockTable}
    {further : List (ObjectId × LockKind × Clause)}
    (added : box.plant = .ofAdditions adjacency additions)
    (built : (LockTable.build box.plant config rows).2 = .ok table)
    (inserted : box.locks = table.insertAll further) (covered : box.Covered state) :
    (∀ stage, Succeeds (box.stageChanges state stage)) ∧
    Succeeds (box.sweep state).2 ∧ box.Covered (box.sweep state).1 ∧
    ∀ count, box.Covered ((fun state => (box.sweep state).1)^[count] state) ∧
      Succeeds (box.sweep ((fun state => (box.sweep state).1)^[count] state)).2 := by
  have consistent : box.plant.Consistent := by
    rw [added]
    exact Database.consistent_ofAdditions adjacency additions
  have ends : box.locks.EndsInApproach box.plant := by
    rw [inserted]
    exact (LockTable.endsInApproach_of_build built).insertAll further
  have supplies := covered.supplies consistent ends
  have cycled : ∀ count, box.Covered ((fun state => (box.sweep state).1)^[count] state) := by
    intro count
    induction count with
    | zero => exact covered
    | succ count inductionHypothesis =>
      rw [Function.iterate_succ_apply']
      exact inductionHypothesis.of_sameKeys sweep_sameKeys
  refine ⟨fun stage => supplies.stageChanges_succeeds consistent stage,
    supplies.sweep_succeeds consistent, cycled 1, fun count => ⟨cycled count, ?_⟩⟩
  exact ((cycled count).supplies consistent ends).sweep_succeeds consistent

end Interlocking

/-! ## Testing for coverage -/

namespace State

variable (state : State)

instance (id : ObjectId) : (kind : ObjectKind) → Decidable (state.HasEntry id kind)
  | .route => inferInstanceAs (Decidable (Succeeds (state.route id)))
  | .lever => inferInstanceAs (Decidable (Succeeds (state.lever id)))
  | .trackCircuit => inferInstanceAs (Decidable (Succeeds (state.track id)))
  | .switchingMachine => inferInstanceAs (Decidable (Succeeds (state.machine id)))
  | .directionRoute => inferInstanceAs (Decidable (Succeeds (state.directionRoute id)))
  | .directionSelfControlLever => inferInstanceAs (Decidable (Succeeds (state.keyLever id)))
  | .routeCentralControlLever => inferInstanceAs (Decidable (Succeeds (state.keyLever id)))

/-- It is enough to go through the defined routes. -/
theorem equips_iff {plant : Database} :
    state.Equips plant ↔
      (∀ id, id ∈ plant.routeIds → Succeeds (state.route id)) ∧
      ∀ id, id ∈ plant.routeIds → ∀ definition, definition ∈ (plant.route? id).toList →
        (∀ lever, lever ∈ definition.lever.toList → Succeeds (state.lever lever)) ∧
        (∀ name, name ∈ definition.button.toList → Succeeds (state.button name)) ∧
        ∀ lever, lever ∈ definition.centralControlLever.toList →
          Succeeds (state.chrRelay lever) := by
  simp only [Option.mem_toList]
  constructor
  · intro equips
    exact ⟨equips.route, fun id _ definition stored =>
      ⟨fun lever => equips.lever id definition lever stored,
        fun name => equips.button id definition name stored,
        fun lever => equips.central id definition lever stored⟩⟩
  · rintro ⟨routes, named⟩
    refine ⟨routes, fun id definition lever stored => ?_, fun id definition name stored => ?_,
      fun id definition lever stored => ?_⟩
    · exact (named id (Database.mem_routeIds_of_route? stored) definition stored).1 lever
    · exact (named id (Database.mem_routeIds_of_route? stored) definition stored).2.1 name
    · exact (named id (Database.mem_routeIds_of_route? stored) definition stored).2.2 lever

instance (plant : Database) : Decidable (state.Equips plant) :=
  decidable_of_iff _ (equips_iff state).symm

end State

namespace Interlocking

variable (box : Interlocking) (state : State)

instance (id : ObjectId) : Decidable (box.Provides state id) :=
  match known : box.plant.kind id with
  | .error _ => isFalse fun ⟨_, found, _⟩ => nomatch known.symm.trans found
  | .ok kind => decidable_of_iff (state.HasEntry id kind) (by
      constructor
      · intro entry
        exact ⟨kind, known, entry⟩
      · rintro ⟨other, found, entry⟩
        cases known.symm.trans found
        exact entry)

theorem covered_iff :
    box.Covered state ↔
      state.Equips box.plant ∧
      (∀ control, control ∈ box.plant.throwOuts → box.plant.kind control.source = .ok .route →
        box.plant.kind control.target = .ok .route →
          (control.source ∈ box.plant.routeIds ∧ control.target ∈ box.plant.routeIds) ∧
          ∀ lever, lever ∈ control.conditionLever.toList → Succeeds (state.keyLever lever)) ∧
      ∀ id, id ∈ box.plant.routeIds →
        ∀ kind, kind ∈ [LockKind.directLock, .signalControl, .approachLock] →
          ∀ leaf, leaf ∈ box.leavesAt id kind → box.Provides state leaf.target := by
  simp only [Option.mem_toList]
  constructor
  · intro covered
    exact ⟨covered.equips, fun control listed source target =>
      ⟨covered.ends control listed source target, covered.guard control listed source target⟩,
      covered.leaves⟩
  · rintro ⟨equips, controls, leaves⟩
    exact ⟨equips, fun control listed source target => (controls control listed source target).1,
      fun control listed source target => (controls control listed source target).2, leaves⟩

instance : Decidable (box.Covered state) :=
  decidable_of_iff _ (covered_iff box state).symm

/-- A route under central control that leads on to one without lever.  The control is guarded, and
the approach of the second route ends in a track circuit. -/
def leadingAdditions : List Addition :=
  [.object ⟨1, "TH71_1", .lever, "TH71"⟩, .object ⟨4, "TH71_4", .routeCentralControlLever, "TH71"⟩,
    .object ⟨5, "TH71_5", .directionSelfControlLever, "TH71"⟩,
    .object ⟨10, "TH71_1R", .route, "TH71"⟩, .object ⟨13, "TH71_1RB", .route, "TH71"⟩,
    .object ⟨30, "TH71_3T", .trackCircuit, "TH71"⟩,
    .route { id := 10, lever := some 1, button := some "TH71_AP", centralControlLever := some 4 },
    .route { id := 13 },
    .throwOut { source := 10, target := 13, kind := .withoutLever, conditionLever := some 5 }]

/-- Conditions that are inserted later, one of them into the approach lock. -/
def leadingInsertions : List (ObjectId × LockKind × Clause) :=
  [(10, .directLock, .not (.leaf { target := 13 })), (13, .approachLock, .leaf { target := 10 })]

def leadingPlant : Database :=
  .ofAdditions {} leadingAdditions

def leadingRows : List LockRow :=
  [⟨"TH71", "TH71_1RB", .approachLock, "3T"⟩]

theorem leading_route_never_fails :
    ∃ table, (LockTable.build leadingPlant {} leadingRows).2 = .ok table ∧
      ∃ box : Interlocking, box = ⟨leadingPlant, table.insertAll leadingInsertions⟩ ∧
      box.locks.finalTrack? 13 = some 30 ∧ (box.leavesAt 13 .approachLock).length = 2 ∧
      box.Covered (State.initial leadingPlant default) ∧
      ∀ count, Succeeds (box.sweep
        ((fun state => (box.sweep state).1)^[count] (State.initial leadingPlant default))).2 := by
  have checked : (LockTable.build leadingPlant {} leadingRows).2.toOption.any
      (fun table => decide ((table.insertAll leadingInsertions).finalTrack? 13 = some 30 ∧
        (leavesAt ⟨leadingPlant, table.insertAll leadingInsertions⟩ 13 .approachLock).length = 2 ∧
        Covered ⟨leadingPlant, table.insertAll leadingInsertions⟩
          (State.initial leadingPlant default))) = true := by
    decide +kernel
  rcases Fallible.exists_of_any checked with ⟨table, built, found⟩
  rcases of_decide_eq_true found with ⟨ends, two, covered⟩
  refine ⟨table, built, _, rfl, ends, two, covered, fun count => ?_⟩
  exact ((covered_states_never_fail rfl built rfl covered).2.2.2 count).2

end Interlocking

end SignalBox
