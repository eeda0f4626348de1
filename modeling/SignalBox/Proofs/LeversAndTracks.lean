import SignalBox.Proofs.Contributions
import SignalBox.Proofs.DroppedRows
import SignalBox.Proofs.Lists

namespace SignalBox

/-!
# Lock levers and final track circuits

Beside its conditions a lock table registers two things: for each side of a direction route the
levers of neighbours, and for each route the track circuit in which its approach lock ends.  Each row
says on its own what it has to register.  What is kept where several rows speak of the same place is
a matter of their order, and the two go different ways.  A final track circuit stays once it is
registered, so the first condition with a track circuit decides; a lock lever is written over, so the
last row that names one does.

A place is an owner, for lock levers with a side and with the way in which the lever locks.  Rows for
other places do not count, nor do rows that name nothing: conditions without track circuits, and
cells with no lever or several.
-/

open Notation (Cell Reference)

/-- The condition ends in a track circuit: it is the target of a leaf, and no leaf behind this one is
about a track circuit. -/
structure Clause.EndsIn (plant : Database) (tree : Clause) (track : ObjectId) : Prop where
  circuit : plant.kind track = .ok .trackCircuit
  last : ∃ before leaf after, tree.leaves = before ++ leaf :: after ∧ leaf.target = track ∧
    ∀ later, later ∈ after → plant.kind later.target ≠ .ok .trackCircuit

/-- The name is resolved to the lever: a direction route and its side. -/
def Database.NamesLever (plant : Database) (column : LockColumn) (reference : Reference)
    (lever : LockLever) : Prop :=
  ∃ found, plant.resolveDirectionRoute column reference = .ok found ∧
    lever = ⟨found.target, found.side.getD .left⟩

/-- The row has a lock lever to register for a side of its owner: it is loaded, it stands in the
column of that side, and its cell has a single name, which is resolved and is subject to unlock just
if the lever is a single-locking one. -/
structure LockRow.Registers (plant : Database) (config : EngineConfig) (row : LockRow)
    (owner : ObjectId) (side : Side) (single : Bool) (lever : LockLever) : Prop where
  loaded : config.loads row.plant = true
  owned : (plant.find? row.object).map PlantObject.id = some owner
  direction : row.column.directionSide? = some side
  named : ∃ cell reference,
    Notation.parse ⟨plant.adjacency, row.plant, row.column⟩ row.raw = .ok (some cell) ∧
    cell.references = [reference] ∧ reference.subjectToUnlock = single ∧
    plant.NamesLever row.column reference lever

/-- Whether the row is loaded and has approach-lock conditions of a route. -/
def LockRow.isApproachOf (plant : Database) (config : EngineConfig) (route : ObjectId)
    (row : LockRow) : Bool :=
  config.loads row.plant && row.column == .approachLock &&
    (plant.find? row.object).any fun owner => owner.kind == .route && owner.id == route

/-- The resolved approach-lock conditions of a route, in the order of the rows. -/
def approachConditions (plant : Database) (config : EngineConfig) (rows : List LockRow)
    (route : ObjectId) : List Clause :=
  (rows.filter (LockRow.isApproachOf plant config route)).flatMap (LockRow.conditions plant)

/-- The registered lever of a side of a direction route, the locking or the single-locking one. -/
def LockTable.lever? (table : LockTable) (owner : ObjectId) (side : Side) (single : Bool) :
    Option LockLever :=
  (table.directionLocks? owner).bind fun locks =>
    if single then (locks.lever side).singleLocked else (locks.lever side).lock

/-! ## First and last -/

namespace LockRow

variable {plant : Database} {tree : Clause} {track : ObjectId}

/-- The last track circuit is found from the end of the leaves. -/
theorem lastTrack?_eq_findSome? (plant : Database) (tree : Clause) :
    lastTrack? plant tree = tree.leaves.reverse.findSome? fun leaf =>
      if plant.kind leaf.target = .ok .trackCircuit then some leaf.target else none := by
  rw [lastTrack?, List.find?_eq_findSome?_guard, List.map_findSome?]
  congr 1
  funext leaf
  have circuit : ((plant.object? leaf.target).any fun object => object.kind == .trackCircuit) =
      true ↔ plant.kind leaf.target = .ok .trackCircuit := by
    simp [Database.kind_eq_ok, Option.any_eq_true]
  by_cases found : plant.kind leaf.target = .ok .trackCircuit
  · simp [Option.guard, circuit.2 found, found]
  · simp [Option.guard, mt circuit.1 found, found]

theorem lastTrack?_eq_some_iff : lastTrack? plant tree = some track ↔ tree.EndsIn plant track := by
  rw [lastTrack?_eq_findSome?, Lists.findSome?_reverse_eq_some_iff]
  simp only [ite_eq_right_iff, reduceCtorEq, imp_false]
  constructor
  · rintro ⟨before, leaf, after, split, chosen, none⟩
    rcases Option.ite_none_right_eq_some.1 chosen with ⟨circuit, same⟩
    cases same
    exact ⟨circuit, before, leaf, after, split, rfl, none⟩
  · rintro ⟨circuit, before, leaf, after, split, rfl, none⟩
    exact ⟨before, leaf, after, split, if_pos circuit, none⟩

theorem lastTrack?_eq_none_iff :
    lastTrack? plant tree = none ↔
      ∀ leaf, leaf ∈ tree.leaves → plant.kind leaf.target ≠ .ok .trackCircuit := by
  rw [lastTrack?_eq_findSome?, List.findSome?_eq_none_iff]
  simp only [List.mem_reverse, ite_eq_right_iff, reduceCtorEq, imp_false]

end LockRow

/-! ## Levers by name -/

namespace Database

variable {plant : Database} {column : LockColumn} {reference : Reference}

/-- Whether a lever single-locks is said by the brackets around its name. -/
theorem subjectToUnlock_of_resolveDirectionRoute {requirement : Requirement}
    (resolved : plant.resolveDirectionRoute column reference = .ok requirement) :
    requirement.subjectToUnlock = reference.subjectToUnlock := by
  rcases Fallible.bind_eq_ok.1 resolved with ⟨outcome, _, later⟩
  split at later
  · cases later
    rfl
  · cases later

theorem side_requirement {target : ObjectId} (kind : plant.kind target = .ok .directionRoute) :
    (plant.requirement reference target).side = Side.ofSuffix? reference.token := by
  rcases kind_eq_ok.1 kind with ⟨object, stored, same⟩
  exact if_pos (by rw [stored, Option.map_some, same])

/-- Apart from the block sections, a lever is looked for in every plant. -/
theorem attempt_directionRoute_eq_ok {side : Side} (direction : column.directionSide? = some side)
    {targets : List ObjectId} :
    Strategy.directionRoute.attempt plant column reference = .ok (some targets) ↔
      reference.plant ≠ blockSectionPlant ∧
        Strategy.Finds plant reference .directionRoute targets := by
  have lettered : column ≠ .switchingMachine := by
    rintro rfl
    cases direction
  have applies : Strategy.directionRoute.applies column reference.plant = true ↔
      reference.plant ≠ blockSectionPlant := by
    simp [Strategy.applies, lettered]
  rw [Strategy.attempt]
  split
  · next placed =>
    refine ⟨fun found => ⟨applies.1 placed, Strategy.finds_of_find found⟩, ?_⟩
    rintro ⟨_, finds⟩
    cases finds with
    | directionRoute sided found =>
      simp only [Strategy.find, sided, found]
      rfl
  · next foreign =>
    constructor
    · intro impossible
      cases impossible
    · rintro ⟨placed, _⟩
      exact absurd (applies.2 placed) foreign

/-- A name is resolved to a lever if its last letter gives the side, and the direction route is
stored in its plant under what stands before this letter. -/
theorem namesLever_iff (consistent : plant.Consistent) {side : Side}
    (direction : column.directionSide? = some side) {lever : LockLever} :
    plant.NamesLever column reference lever ↔
      reference.plant ≠ blockSectionPlant ∧
        Side.ofSuffix? reference.token = some lever.side ∧
        ∃ object, plant.findKind? (Naming.directionRoute reference.plant
            (String.ofList reference.token.toList.dropLast)) .directionRoute = some object ∧
          object.id = lever.directionRoute := by
  have sided : ∀ {target : ObjectId}, Strategy.Finds plant reference .directionRoute [target] →
      (plant.requirement reference target).side = Side.ofSuffix? reference.token := by
    intro target finds
    rcases finds.exists_kind consistent (List.mem_singleton_self target) with ⟨_, kind, rfl⟩
    exact side_requirement kind
  constructor
  · rintro ⟨requirement, resolved, rfl⟩
    rcases Fallible.bind_eq_ok.1 resolved with ⟨outcome, attempted, later⟩
    split at later
    · cases later
      rcases (attempt_directionRoute_eq_ok direction).1 attempted with ⟨placed, finds⟩
      cases finds with
      | directionRoute given found =>
        refine ⟨placed, ?_, _, found, rfl⟩
        rw [sided (.directionRoute given found), given]
        rfl
    · cases later
  · rintro ⟨placed, given, object, found, same⟩
    have finds : Strategy.Finds plant reference .directionRoute [object.id] :=
      .directionRoute given found
    refine ⟨plant.requirement reference object.id, ?_, ?_⟩
    · exact Fallible.bind_of_eq_ok ((attempt_directionRoute_eq_ok direction).2 ⟨placed, finds⟩) _
    · rw [sided finds, given]
      exact congrArg (LockLever.mk · lever.side) same.symm

end Database

/-! ## What is registered in a table -/

namespace LockEntry

/-- The final track circuit that an entry registers for a route. -/
def finalTrack? (route : ObjectId) : LockEntry → Option ObjectId
  | finalTrack owner track => if owner = route then some track else none
  | _ => none

/-- The lever that an entry registers for a side of a direction route. -/
def lever? (owner : ObjectId) (side : Side) (single : Bool) : LockEntry → Option LockLever
  | lockLever other place kept lever =>
    if other = owner ∧ place = side ∧ kept = single then some lever else none
  | _ => none

end LockEntry

namespace LockTable

/-- A final track circuit that is registered stays. -/
theorem finalTrack?_enter (table : LockTable) (value : LockEntry) (route : ObjectId) :
    (table.enter value).finalTrack? route =
      (table.finalTrack? route).or (value.finalTrack? route) := by
  cases value with
  | clause object kind tree => exact Option.or_none.symm
  | lockLever other place kept lever => exact Option.or_none.symm
  | finalTrack other track =>
    simp only [enter, registerFinalTrack, LockEntry.finalTrack?]
    by_cases stored : table.finalTracks.contains other = true
    · rw [if_pos stored]
      by_cases own : other = route
      · rcases Option.isSome_iff_exists.1 stored with ⟨first, found⟩
        rw [finalTrack?, ← own, found, Option.some_or]
      · rw [if_neg own, Option.or_none]
    · rw [if_neg stored, finalTrack?, Table.get?_insert]
      by_cases own : other = route
      · have none : table.finalTrack? other = none :=
          Option.not_isSome_iff_eq_none.1 stored
        rw [if_pos own, if_pos own, ← own, none, Option.none_or]
      · rw [if_neg own, if_neg own, Option.or_none]
        rfl

/-- A lever that is registered takes the place of an older one. -/
theorem lever?_enter (table : LockTable) (value : LockEntry) (owner : ObjectId) (side : Side)
    (single : Bool) :
    (table.enter value).lever? owner side single =
      (value.lever? owner side single).or (table.lever? owner side single) := by
  cases value with
  | clause object kind tree => rfl
  | finalTrack other track =>
    simp only [enter, registerFinalTrack]
    split <;> rfl
  | lockLever other place kept lever =>
    simp only [enter, LockEntry.lever?]
    by_cases own : other = owner
    · subst own
      simp only [lever?, directionLocks?, registerLever, Table.get?_insert]
      cases table.directionLocks.get? other <;> cases place <;> cases side <;> cases kept <;>
        cases single <;> rfl
    · simp only [lever?, directionLocks?, registerLever, Table.get?_insert, own]
      rfl

theorem finalTrack?_foldl (values : List LockEntry) (table : LockTable) (route : ObjectId) :
    (values.foldl enter table).finalTrack? route =
      (table.finalTrack? route).or (values.findSome? (LockEntry.finalTrack? route)) := by
  induction values generalizing table with
  | nil => exact Option.or_none.symm
  | cons value rest inductionHypothesis =>
    rw [List.foldl_cons, inductionHypothesis, finalTrack?_enter, Option.or_assoc,
      List.findSome?_cons]
    cases value.finalTrack? route <;> rfl

theorem lever?_foldl (values : List LockEntry) (table : LockTable) (owner : ObjectId) (side : Side)
    (single : Bool) :
    (values.foldl enter table).lever? owner side single =
      (values.reverse.findSome? (LockEntry.lever? owner side single)).or
        (table.lever? owner side single) := by
  induction values generalizing table with
  | nil => rfl
  | cons value rest inductionHypothesis =>
    rw [List.foldl_cons, inductionHypothesis, lever?_enter, ← Option.or_assoc, List.reverse_cons,
      List.findSome?_append, List.findSome?_singleton]

end LockTable

/-! ## What a row registers -/

namespace LockRow

variable {plant : Database} {config : EngineConfig} {row : LockRow} {object : PlantObject}
  {route owner : ObjectId} {side : Side} {single : Bool} {lever : LockLever}

theorem filterMap_value?_readTree (tree : Notation.Tree) :
    (row.readTree plant config object tree).filterMap Contribution.value? =
      (plant.resolve row.column tree).toOption.toList.flatMap
        (row.resolvedEntries plant object) := by
  cases resolved : plant.resolve row.column tree with
  | error error =>
    rw [readTree_of_error resolved, List.filterMap_cons_none (value?_unresolved error)]
    rfl
  | ok clause =>
    rw [readTree_of_resolve resolved, List.filterMap_map]
    exact List.filterMap_some.trans (List.flatMap_singleton _ clause).symm

theorem entries_of_absent (absent : plant.find? row.object = none) :
    row.entries plant config = [] := by
  rw [entries]
  cases loaded : config.loads row.plant with
  | false =>
    rw [read_of_unloaded loaded]
    rfl
  | true =>
    rw [read_of_absent loaded absent]
    split <;> rfl

/-- A row with entries is loaded, its owner is known, and its cell can be read. -/
theorem exists_of_entries {value : LockEntry} (listed : value ∈ row.entries plant config) :
    ∃ object cell, config.loads row.plant = true ∧ plant.find? row.object = some object ∧
      Notation.parse ⟨plant.adjacency, row.plant, row.column⟩ row.raw = .ok cell := by
  cases loaded : config.loads row.plant with
  | false =>
    rw [entries, read_of_unloaded loaded] at listed
    cases listed
  | true =>
    cases found : plant.find? row.object with
    | none =>
      rw [entries_of_absent found] at listed
      cases listed
    | some object =>
      cases parsed : Notation.parse ⟨plant.adjacency, row.plant, row.column⟩ row.raw with
      | ok cell => exact ⟨object, cell, rfl, rfl, rfl⟩
      | error cause =>
        rw [entries, read_of_found loaded found, readOwned, parsed] at listed
        cases listed

/-- Outside of the columns of lock levers a row has the entries of its conditions, one condition
after another. -/
theorem entries_of_plain (loaded : config.loads row.plant = true)
    (found : plant.find? row.object = some object) (plain : row.column.directionSide? = none) :
    row.entries plant config =
      (row.conditions plant).flatMap (row.resolvedEntries plant object) := by
  rw [entries, read_of_found loaded found, conditions]
  cases parsed : Notation.parse ⟨plant.adjacency, row.plant, row.column⟩ row.raw with
  | error cause =>
    rw [readOwned, parsed]
    rfl
  | ok cell =>
    rw [readOwned_of_plain parsed plain, List.filterMap_flatMap]
    cases cell with
    | none => rfl
    | some cell =>
      dsimp only [Option.map_some, Option.getD_some]
      rw [List.filterMap_eq_flatMap_toList, List.flatMap_assoc]
      exact List.flatMap_congr fun tree _ => filterMap_value?_readTree tree

theorem finalTrack?_resolvedEntries (tree : Clause) :
    (row.resolvedEntries plant object tree).filterMap (LockEntry.finalTrack? route) =
      if row.column = .approachLock ∧ object.kind = .route ∧ object.id = route then
        (lastTrack? plant tree).toList
      else [] := by
  unfold resolvedEntries
  by_cases approach : row.column = .approachLock ∧ object.kind = .route
  · cases lastTrack? plant tree <;> by_cases own : object.id = route <;>
      simp [approach, LockEntry.finalTrack?, own]
  · simp [approach, LockEntry.finalTrack?, ← and_assoc]

theorem lockLever_not_mem_resolvedEntries {tree : Clause} :
    .lockLever owner side single lever ∉ row.resolvedEntries plant object tree := by
  intro listed
  rcases List.mem_append.1 listed with track | clause
  · split at track
    · rcases List.mem_map.1 track with ⟨last, _, same⟩
      cases same
    · cases track
  · cases List.mem_singleton.1 clause

section Direction

variable {cell : Option Cell} (loaded : config.loads row.plant = true)
  (found : plant.find? row.object = some object) (direction : row.column.directionSide? = some side)
  (parsed : Notation.parse ⟨plant.adjacency, row.plant, row.column⟩ row.raw = .ok cell)
include loaded found direction parsed

theorem entries_of_direction :
    row.entries plant config =
      [row.readDirectionLock plant config object side cell].filterMap Contribution.value? := by
  rw [entries, read_of_found loaded found, readOwned_of_direction parsed direction]

theorem kind_of_entries {value : LockEntry} (listed : value ∈ row.entries plant config) :
    object.kind = .directionRoute := by
  by_contra other
  rw [entries_of_direction loaded found direction parsed, readDirectionLock, if_pos other] at listed
  cases listed

variable {reference : Reference} (kind : object.kind = .directionRoute)
  (alone : (cell.map Cell.references).getD [] = [reference])
include kind alone

theorem entries_of_unresolved {error : ResolveError}
    (failed : plant.resolveDirectionRoute row.column reference = .error error) :
    row.entries plant config = [] := by
  rw [entries_of_direction loaded found direction parsed, readDirectionLock_of_single kind alone,
    failed]
  exact List.filterMap_cons_none (value?_unresolved error)

theorem entries_of_resolved {requirement : Requirement}
    (resolved : plant.resolveDirectionRoute row.column reference = .ok requirement) :
    row.entries plant config =
      [.lockLever object.id side requirement.subjectToUnlock
        ⟨requirement.target, requirement.side.getD .left⟩] := by
  rw [entries_of_direction loaded found direction parsed, readDirectionLock_of_single kind alone,
    resolved]
  rfl

end Direction

/-- A cell that names no lever or several gives no entry, whoever its owner is. -/
theorem entries_of_count {cell : Option Cell} (direction : row.column.directionSide? = some side)
    (parsed : Notation.parse ⟨plant.adjacency, row.plant, row.column⟩ row.raw = .ok cell)
    (count : ((cell.map Cell.references).getD []).length ≠ 1) : row.entries plant config = [] := by
  refine List.eq_nil_iff_forall_not_mem.2 fun value listed => ?_
  rcases exists_of_entries listed with ⟨object, _, loaded, found, _⟩
  rw [entries_of_direction loaded found direction parsed, readDirectionLock] at listed
  split at listed
  · cases listed
  · split at listed
    · next reference single =>
      rw [single] at count
      exact absurd rfl count
    · cases listed

/-- A row that has a lever to register does so, if it passes. -/
theorem Registers.entries_eq (registers : row.Registers plant config owner side single lever)
    (passes : row.Passes plant config) :
    row.entries plant config = [.lockLever owner side single lever] := by
  rcases registers.named with ⟨cell, reference, parsed, alone, rfl, requirement, resolved, rfl⟩
  rcases Option.map_eq_some_iff.1 registers.owned with ⟨object, found, rfl⟩
  have kind : object.kind = .directionRoute := by
    cases passes with
    | foreign unloaded => cases registers.loaded.symm.trans unloaded
    | ownerless absent _ _ => cases absent.symm.trans found
    | conditions _ plain _ _ => cases plain.symm.trans registers.direction
    | lockLever stored _ _ kind _ =>
      cases stored.symm.trans found
      exact kind
  rw [entries_of_resolved registers.loaded found registers.direction parsed kind alone resolved,
    Database.subjectToUnlock_of_resolveDirectionRoute resolved]

/-- In the columns of lock levers there are no other entries than those that a row has to register. -/
theorem registers_of_direction (direction : row.column.directionSide? = some side)
    {value : LockEntry} (listed : value ∈ row.entries plant config) :
    ∃ owner single lever, value = .lockLever owner side single lever ∧
      row.Registers plant config owner side single lever := by
  rcases exists_of_entries listed with ⟨object, cell, loaded, found, parsed⟩
  have kind := kind_of_entries loaded found direction parsed listed
  by_cases count : ((cell.map Cell.references).getD []).length = 1
  · rcases List.length_eq_one_iff.1 count with ⟨reference, alone⟩
    cases resolved : plant.resolveDirectionRoute row.column reference with
    | error error =>
      rw [entries_of_unresolved loaded found direction parsed kind alone resolved] at listed
      cases listed
    | ok requirement =>
      rw [entries_of_resolved loaded found direction parsed kind alone resolved] at listed
      cases cell with
      | none => cases alone
      | some cell =>
        refine ⟨_, _, _, List.mem_singleton.1 listed, loaded,
          congrArg (Option.map PlantObject.id) found, direction, cell, reference, parsed, alone, ?_,
          requirement, resolved, rfl⟩
        exact (Database.subjectToUnlock_of_resolveDirectionRoute resolved).symm
  · rw [entries_of_count direction parsed count] at listed
    cases listed

/-- Whatever lever a row registers, it had it to register. -/
theorem registers_of_entries
    (listed : .lockLever owner side single lever ∈ row.entries plant config) :
    row.Registers plant config owner side single lever := by
  cases direction : row.column.directionSide? with
  | none =>
    rcases exists_of_entries listed with ⟨object, _, loaded, found, _⟩
    rw [entries_of_plain loaded found direction] at listed
    rcases List.mem_flatMap.1 listed with ⟨tree, _, inside⟩
    exact absurd inside lockLever_not_mem_resolvedEntries
  | some place =>
    rcases registers_of_direction direction listed with ⟨_, _, _, same, registers⟩
    cases same
    exact registers

/-- What a row that passes registers for a lever is what it has to register. -/
theorem lever?_entries_iff (passes : row.Passes plant config) :
    ((row.entries plant config).filterMap (LockEntry.lever? owner side single)).getLast? =
        some lever ↔
      row.Registers plant config owner side single lever := by
  constructor
  · intro last
    rcases List.mem_filterMap.1 (List.mem_of_getLast? last) with ⟨value, listed, own⟩
    cases value with
    | clause object kind tree => cases own
    | finalTrack route track => cases own
    | lockLever object place kept given =>
      rcases Option.ite_none_right_eq_some.1 own with ⟨⟨rfl, rfl, rfl⟩, same⟩
      cases same
      exact registers_of_entries listed
  · intro registers
    rw [registers.entries_eq passes]
    simp [LockEntry.lever?]

/-- The final track circuits that a row registers for a route are those of its approach-lock
conditions. -/
theorem filterMap_finalTrack?_entries :
    (row.entries plant config).filterMap (LockEntry.finalTrack? route) =
      if row.isApproachOf plant config route then
        (row.conditions plant).filterMap (lastTrack? plant)
      else [] := by
  cases direction : row.column.directionSide? with
  | some side =>
    have other : row.column ≠ .approachLock := by
      rintro approach
      rw [approach] at direction
      cases direction
    rw [isApproachOf, beq_eq_false_iff_ne.2 other, Bool.and_false, Bool.false_and,
      if_neg Bool.false_ne_true, List.filterMap_eq_nil_iff]
    intro value listed
    rcases registers_of_direction direction listed with ⟨_, _, _, rfl, _⟩
    rfl
  | none =>
    cases loaded : config.loads row.plant with
    | false =>
      rw [isApproachOf, loaded, entries, read_of_unloaded loaded]
      rfl
    | true =>
      cases found : plant.find? row.object with
      | none =>
        rw [isApproachOf, found, Option.any_none, Bool.and_false, entries_of_absent found]
        rfl
      | some object =>
        rw [entries_of_plain loaded found direction, List.filterMap_flatMap, isApproachOf, loaded,
          found, List.filterMap_eq_flatMap_toList]
        simp only [finalTrack?_resolvedEntries, Option.any_some, Bool.true_and, Bool.and_eq_true,
          beq_iff_eq]
        split
        · rfl
        · exact List.flatMap_eq_nil_iff.2 fun _ _ => rfl

end LockRow

namespace LockTable

variable {plant : Database} {config : EngineConfig} {rows : List LockRow} {table : LockTable}

/-- The first condition that ends in a track circuit decides. -/
theorem finalTrack?_of_build (built : (build plant config rows).2 = .ok table) (route : ObjectId) :
    table.finalTrack? route =
      (approachConditions plant config rows route).findSome? (LockRow.lastTrack? plant) := by
  rcases build_eq_ok.1 built with ⟨_, rfl⟩
  rw [finalTrack?_foldl, ← List.head?_filterMap, ← List.head?_filterMap, approachConditions,
    List.filterMap_flatMap, List.filterMap_flatMap, Lists.flatMap_filter]
  simp only [LockRow.filterMap_finalTrack?_entries]
  rfl

/-- The last row that has a lever to register decides. -/
theorem lever?_of_build (built : (build plant config rows).2 = .ok table) (owner : ObjectId)
    (side : Side) (single : Bool) :
    table.lever? owner side single = rows.reverse.findSome? fun row =>
      ((row.entries plant config).filterMap (LockEntry.lever? owner side single)).getLast? := by
  rcases build_eq_ok.1 built with ⟨_, rfl⟩
  rw [lever?_foldl, ← List.getLast?_filterMap, List.filterMap_flatMap, List.getLast?_flatMap]
  exact Option.or_none

theorem lever?_eq_some_iff (built : (build plant config rows).2 = .ok table) {owner : ObjectId}
    {side : Side} {single : Bool} {lever : LockLever} :
    table.lever? owner side single = some lever ↔
      ∃ before row after, rows = before ++ row :: after ∧
        row.Registers plant config owner side single lever ∧
        ∀ later, later ∈ after → ∀ other, ¬ later.Registers plant config owner side single other := by
  have passes := (build_eq_ok.1 built).1
  rw [lever?_of_build built, Lists.findSome?_reverse_eq_some_iff]
  refine exists_congr fun before => exists_congr fun row => exists_congr fun after =>
    and_congr_right fun split => ?_
  have passed : ∀ later, later ∈ row :: after → later.Passes plant config := fun later listed =>
    passes later (split ▸ List.mem_append_right before listed)
  refine and_congr (LockRow.lever?_entries_iff (passed row List.mem_cons_self)) ?_
  refine forall_congr' fun later => forall_congr' fun listed => ?_
  rw [Option.eq_none_iff_forall_ne_some]
  exact forall_congr' fun other =>
    not_congr (LockRow.lever?_entries_iff (passed later (List.mem_cons_of_mem row listed)))

theorem lever?_eq_none_iff (built : (build plant config rows).2 = .ok table) {owner : ObjectId}
    {side : Side} {single : Bool} :
    table.lever? owner side single = none ↔
      ∀ row, row ∈ rows → ∀ lever, ¬ row.Registers plant config owner side single lever := by
  have passes := (build_eq_ok.1 built).1
  rw [lever?_of_build built, List.findSome?_eq_none_iff]
  simp only [List.mem_reverse]
  refine forall_congr' fun row => forall_congr' fun listed => ?_
  rw [Option.eq_none_iff_forall_ne_some]
  exact forall_congr' fun lever => not_congr (LockRow.lever?_entries_iff (passes row listed))

/-- A row without entries can be left out. -/
theorem build_of_entries_nil {before after : List LockRow} {row : LockRow}
    (built : (build plant config (before ++ row :: after)).2 = .ok table)
    (nothing : row.entries plant config = []) :
    (build plant config (before ++ after)).2 = .ok table := by
  rcases build_eq_ok.1 built with ⟨passes, rfl⟩
  refine build_eq_ok.2 ⟨fun other listed => passes other ?_, ?_⟩
  · exact List.Sublist.subset ((List.sublist_cons_self row after).append_left before) listed
  · rw [List.flatMap_append, List.flatMap_append, List.flatMap_cons, nothing, List.nil_append]

/-- A row that is loaded only because gaps are tolerated has no entries. -/
theorem entries_of_intolerable {row : LockRow} (passes : row.Passes plant config)
    (strict : ¬ Succeeds (build plant (config.tolerating false) [row]).2) :
    row.entries plant config = [] := by
  rw [build_single_succeeds_iff] at strict
  cases tolerates : config.toleratesGaps with
  | false =>
    have same : config.tolerating false = config := by
      rw [EngineConfig.tolerating, ← tolerates]
    exact absurd (same.symm ▸ passes) strict
  | true =>
    have same : config.tolerating true = config := by
      rw [EngineConfig.tolerating, ← tolerates]
    have own := LockRow.entries_of_overlooked (same.symm ▸ passes) strict
    rwa [same] at own

/-- The final track circuit of a route and the lock levers of a direction route, as rows have them to
register.  The first of the route's approach-lock conditions that ends in a track circuit gives the
one, and there is none just if no such condition names a track circuit; the last row that has a lever
to register for an owner, a side and a way of locking gives the other, and there is none just if no
row has.  Rows of lock levers whose cells name none or several can be left out, and so can rows that
are only accepted for a gap; and where the plant is consistent, a lever is the direction route that
its name spells, with the side behind it. -/
theorem first_tracks_and_last_levers_are_kept (built : (build plant config rows).2 = .ok table) :
    (∀ route track, table.finalTrack? route = some track ↔
      ∃ before tree after,
        approachConditions plant config rows route = before ++ tree :: after ∧
        tree.EndsIn plant track ∧
        ∀ earlier, earlier ∈ before → ∀ leaf, leaf ∈ earlier.leaves →
          plant.kind leaf.target ≠ .ok .trackCircuit) ∧
    (∀ route, table.finalTrack? route = none ↔
      ∀ tree, tree ∈ approachConditions plant config rows route → ∀ leaf, leaf ∈ tree.leaves →
        plant.kind leaf.target ≠ .ok .trackCircuit) ∧
    (∀ owner side single lever, table.lever? owner side single = some lever ↔
      ∃ before row after, rows = before ++ row :: after ∧
        row.Registers plant config owner side single lever ∧
        ∀ later, later ∈ after → ∀ other,
          ¬ later.Registers plant config owner side single other) ∧
    (∀ owner side single, table.lever? owner side single = none ↔
      ∀ row, row ∈ rows → ∀ lever, ¬ row.Registers plant config owner side single lever) ∧
    (∀ before row after, rows = before ++ row :: after →
      (∃ side cell, row.column.directionSide? = some side ∧
        Notation.parse ⟨plant.adjacency, row.plant, row.column⟩ row.raw = .ok cell ∧
        ((cell.map Cell.references).getD []).length ≠ 1) ∨
      ¬ Succeeds (build plant (config.tolerating false) [row]).2 →
        (build plant config (before ++ after)).2 = .ok table) ∧
    (plant.Consistent → ∀ column side reference lever, column.directionSide? = some side →
      (plant.NamesLever column reference lever ↔
        reference.plant ≠ blockSectionPlant ∧
          Side.ofSuffix? reference.token = some lever.side ∧
          ∃ object, plant.findKind? (Naming.directionRoute reference.plant
              (String.ofList reference.token.toList.dropLast)) .directionRoute = some object ∧
            object.id = lever.directionRoute)) := by
  refine ⟨fun route track => ?_, fun route => ?_, fun owner side single lever =>
    lever?_eq_some_iff built, fun owner side single => lever?_eq_none_iff built,
    fun before row after split skipped => ?_, fun consistent column side reference lever direction =>
    Database.namesLever_iff consistent direction⟩
  · rw [finalTrack?_of_build built, List.findSome?_eq_some_iff]
    simp only [LockRow.lastTrack?_eq_some_iff, LockRow.lastTrack?_eq_none_iff]
  · rw [finalTrack?_of_build built, List.findSome?_eq_none_iff]
    simp only [LockRow.lastTrack?_eq_none_iff]
  · subst split
    refine build_of_entries_nil built ?_
    rcases skipped with ⟨side, cell, direction, parsed, count⟩ | strict
    · exact LockRow.entries_of_count direction parsed count
    · have listed : row ∈ before ++ row :: after :=
        List.mem_append_right before List.mem_cons_self
      exact entries_of_intolerable ((build_eq_ok.1 built).1 row listed) strict

/-- A plant with a route, track circuits in it and ahead of it, and direction routes. -/
def leveredPlant : Database where
  adjacency := .line
  objects := [⟨10, "TH71_1RA", .route, "TH71"⟩, ⟨30, "TH71_3T", .trackCircuit, "TH71"⟩,
    ⟨31, "TH70_5T", .trackCircuit, "TH70"⟩, ⟨40, "TH71_12F", .directionRoute, "TH71"⟩,
    ⟨41, "TH70_5F", .directionRoute, "TH70"⟩, ⟨42, "TH58_1F", .directionRoute, "TH58"⟩]

/-- Cells that register nothing stand before, between and behind those that do: a condition without
track circuits, cells with two levers and with none, and a lever in a gap. -/
def leveredRows : List LockRow :=
  [⟨"TH71", "TH71_1RA", .approachLock, "12L"⟩, ⟨"TH71", "TH71_12F", .directionLockLeft, "[5L]"⟩,
    ⟨"TH71", "TH71_1RA", .approachLock, "(3T 又は [5T])"⟩,
    ⟨"TH71", "TH71_12F", .directionLockLeft, "｢[5L]｣"⟩,
    ⟨"TH71", "TH71_12F", .directionLockLeft, "[5L] [5R]"⟩,
    ⟨"TH71", "TH71_12F", .directionLockLeft, "[5R]"⟩, ⟨"TH71", "TH71_1RA", .approachLock, "3T"⟩,
    ⟨"TH71", "TH71_12F", .directionLockLeft, ""⟩,
    ⟨"TH58", "TH58_1F", .directionLockLeft, "[[9L]]"⟩]

/-- The second condition of the route decides, and of the levers the last one of each kind; the lever
in a gap is not registered, and its row can be left out. -/
theorem levered_rows_keep_the_first_track_and_the_last_levers :
    ∃ table, (build leveredPlant {} leveredRows).2 = .ok table ∧
      (∃ tree, tree ∈ approachConditions leveredPlant {} leveredRows 10 ∧
        tree.EndsIn leveredPlant 31) ∧
      (∃ row, row ∈ leveredRows ∧ row.Registers leveredPlant {} 40 .left false ⟨41, .right⟩) ∧
      (∃ row, row ∈ leveredRows ∧ row.Registers leveredPlant {} 40 .left true ⟨41, .left⟩) ∧
      (∀ row, row ∈ leveredRows → ∀ lever, ¬ row.Registers leveredPlant {} 42 .left false lever) ∧
      (build leveredPlant {} leveredRows.dropLast).2 = .ok table := by
  have known : (build leveredPlant {} leveredRows).2.toOption.any (fun table => decide
      (table.finalTrack? 10 = some 31 ∧ table.lever? 40 .left false = some ⟨41, .right⟩ ∧
        table.lever? 40 .left true = some ⟨41, .left⟩ ∧ table.lever? 42 .left false = none)) =
      true := by decide +kernel
  rcases Fallible.exists_of_any known with ⟨table, built, registered⟩
  rcases of_decide_eq_true registered with ⟨track, lock, single, absent⟩
  rcases first_tracks_and_last_levers_are_kept built with ⟨tracks, _, levers, none, skipped, _⟩
  rcases (tracks 10 31).1 track with ⟨before, tree, after, listed, ends, _⟩
  rcases (levers 40 .left false ⟨41, .right⟩).1 lock with ⟨front, row, back, split, own, _⟩
  rcases (levers 40 .left true ⟨41, .left⟩).1 single with ⟨front', row', back', split', own', _⟩
  refine ⟨table, built, ⟨tree, listed ▸ List.mem_append_right before List.mem_cons_self, ends⟩,
    ⟨row, split ▸ List.mem_append_right front List.mem_cons_self, own⟩,
    ⟨row', split' ▸ List.mem_append_right front' List.mem_cons_self, own'⟩,
    (none 42 .left false).1 absent, ?_⟩
  exact skipped leveredRows.dropLast ⟨"TH58", "TH58_1F", .directionLockLeft, "[[9L]]"⟩ [] rfl
    (.inr (by decide +kernel))

end LockTable

end SignalBox
