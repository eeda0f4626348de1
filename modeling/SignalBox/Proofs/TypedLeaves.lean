import SignalBox.Proofs.Contributions
import SignalBox.Proofs.Resolution
import SignalBox.Proofs.RouteIndices

namespace SignalBox

/-!
# The kinds of resolved leaves

A leaf of the lock table no longer shows which name it was put for, nor in which column that
name stood.  `LockRow.Puts` leads back from the leaf to both.  What the leaf asks for can then be
told by them: `Requirement.IsTyped` is the rule that all strategies keep to, each for the columns
and the plants that it applies to, so that it does not matter which of them came first.

Leaves get into the table by joining and appending conditions only.  The conditions themselves
never lose all of their parts on the way, from the text of a cell to the stored condition.
-/

open Notation (Cell Reference Tree)

/-! ## The kind of a leaf -/

/-- What a leaf in the place of a name of a column can ask for.  It asks for an object, which is
a switching machine in the column of these and nowhere else, and a track circuit if the name
stands in a block section.  Track circuits and direction routes have no position, and only
direction routes have a side, which is that of the name. -/
structure Requirement.IsTyped (plant : Database) (column : LockColumn) (reference : Reference)
    (leaf : Requirement) : Prop where
  known : Succeeds (plant.kind leaf.target)
  machine : plant.kind leaf.target = .ok .switchingMachine ↔ column = .switchingMachine
  block : reference.plant = blockSectionPlant →
    column = .approachLock ∧ plant.kind leaf.target = .ok .trackCircuit
  direction : leaf.direction = none ↔
    plant.kind leaf.target = .ok .trackCircuit ∨ plant.kind leaf.target = .ok .directionRoute
  side : ∀ side, leaf.side = some side ↔
    plant.kind leaf.target = .ok .directionRoute ∧ Side.ofSuffix? reference.token = some side

namespace Strategy

variable {strategy : Strategy} {column : LockColumn} {place : String} {kind : ObjectKind}

/-- Machines are looked for in the column of switching machines, and nothing else is. -/
theorem LooksFor.machine_iff (looks : strategy.LooksFor kind)
    (applies : strategy.applies column place = true) :
    kind = .switchingMachine ↔ column = .switchingMachine := by
  cases strategy <;> simp_all [LooksFor, Strategy.applies]

/-- Names of block sections are read by one strategy only. -/
theorem LooksFor.block (looks : strategy.LooksFor kind)
    (applies : strategy.applies column blockSectionPlant = true) :
    column = .approachLock ∧ kind = .trackCircuit := by
  cases strategy <;> simp_all [LooksFor, Strategy.applies]

end Strategy

namespace Database

variable {plant : Database} {column : LockColumn} {reference : Reference}

theorem requirement_isTyped (consistent : plant.Consistent) {targets : List ObjectId}
    (found : plant.targets column reference = .ok targets) {target : ObjectId}
    (member : target ∈ targets) :
    (plant.requirement reference target).IsTyped plant column reference := by
  rcases Strategy.exists_finds_of_firstOf found with ⟨strategy, applies, finds⟩
  rcases finds.exists_kind consistent member with ⟨kind, known, looks⟩
  rcases kind_eq_ok.1 known with ⟨object, stored, rfl⟩
  constructor
  · exact ⟨object.kind, known⟩
  · rw [requirement, known, Except.ok.injEq]
    exact looks.machine_iff applies
  · intro block
    rw [block] at applies
    rw [requirement, known, Except.ok.injEq]
    exact looks.block applies
  · by_cases unplaced : object.kind = .trackCircuit ∨ object.kind = .directionRoute
    · simp [requirement, known, stored, unplaced]
    · simp [requirement, known, stored, unplaced]
  · simp [requirement, known, stored]

end Database

/-! ## The name behind a leaf -/

/-- The row feeds a kind of lock of an object, and puts the leaf for one of the names in its
cell. -/
structure LockRow.Puts (plant : Database) (config : EngineConfig) (key : ObjectId × LockKind)
    (row : LockRow) (reference : Reference) (leaf : Requirement) : Prop where
  fed : row.feeds? plant config = some key
  named : ∃ (cell : Cell) (tree : Tree),
    Notation.parse ⟨plant.adjacency, row.plant, row.column⟩ row.raw = .ok (some cell) ∧
      tree ∈ cell.trees ∧ Succeeds (plant.resolve row.column tree) ∧ reference ∈ tree.leaves
  found : ∃ (targets : List ObjectId) (target : ObjectId),
    plant.targets row.column reference = .ok targets ∧ target ∈ targets ∧
      leaf = plant.requirement reference target

theorem LockRow.Puts.isTyped {plant : Database} (consistent : plant.Consistent)
    {config : EngineConfig} {key : ObjectId × LockKind} {row : LockRow} {reference : Reference}
    {leaf : Requirement} (puts : row.Puts plant config key reference leaf) :
    leaf.IsTyped plant row.column reference := by
  rcases puts.found with ⟨targets, target, found, member, rfl⟩
  exact Database.requirement_isTyped consistent found member

section Contributions

variable {plant : Database} {config : EngineConfig} {rows : List LockRow}
  {key : ObjectId × LockKind} {clause : Clause}

/-- A contribution is what a condition of a cell resolves to. -/
theorem exists_of_mem_contributions (contributed : clause ∈ contributions plant config rows key) :
    ∃ row ∈ rows, row.feeds? plant config = some key ∧ ∃ cell : Cell,
      Notation.parse ⟨plant.adjacency, row.plant, row.column⟩ row.raw = .ok (some cell) ∧
        ∃ tree ∈ cell.trees, plant.resolve row.column tree = .ok clause := by
  rcases List.mem_flatMap.1 contributed with ⟨row, listed, own⟩
  rcases List.mem_filter.1 listed with ⟨member, fed⟩
  refine ⟨row, member, beq_iff_eq.1 fed, ?_⟩
  unfold LockRow.conditions at own
  split at own
  · rename_i cell parsed
    rcases List.mem_filterMap.1 own with ⟨tree, inside, resolved⟩
    refine ⟨cell, parsed, tree, inside, ?_⟩
    cases result : plant.resolve row.column tree with
    | error error =>
      rw [result] at resolved
      cases resolved
    | ok found =>
      rw [result] at resolved
      cases resolved
      rfl
  · cases own

theorem exists_puts_of_contributions (contributed : clause ∈ contributions plant config rows key)
    {leaf : Requirement} (member : leaf ∈ clause.leaves) :
    ∃ row ∈ rows, ∃ reference : Reference, row.Puts plant config key reference leaf := by
  rcases exists_of_mem_contributions contributed with
    ⟨row, listed, fed, cell, parsed, tree, inside, resolved⟩
  rcases Condition.mem_leaves_expand resolved member with ⟨reference, named, values, given, put⟩
  rcases Fallible.map_eq_ok.1 given with ⟨targets, found, rfl⟩
  rcases List.mem_map.1 put with ⟨target, targeted, same⟩
  exact ⟨row, listed, reference, fed, ⟨cell, tree, parsed, inside, ⟨clause, resolved⟩, named⟩,
    targets, target, found, targeted, same.symm⟩

end Contributions

/-! ## Conditions with parts -/

/-- Neither the condition nor anything inside of it is a connective without parts. -/
def Condition.IsFilled {α : Type} (tree : Condition α) : Prop :=
  ∀ part : Condition α, part.Inside tree → part.isVoid = false

theorem Notation.Fits.isVoid {site : Notation.Site} {tree : Tree} (fits : Notation.Fits site tree) :
    tree.isVoid = false := by
  cases fits with
  | leaf placed straight => rfl
  | @all parts nonempty positive flat =>
    cases parts with
    | nil => exact absurd rfl nonempty
    | cons part rest => rfl
  | @any parts several positive closed =>
    cases parts with
    | nil => cases several
    | cons part rest => rfl
  | not positive => rfl

/-- Conditions in parsed cells have parts, and keep them where they resolve. -/
theorem isFilled_of_contributions {plant : Database} {config : EngineConfig} {rows : List LockRow}
    {key : ObjectId × LockKind} {clause : Clause}
    (contributed : clause ∈ contributions plant config rows key) : clause.IsFilled := by
  rcases exists_of_mem_contributions contributed with
    ⟨row, _, _, cell, parsed, tree, listed, resolved⟩
  intro part inside
  by_contra void
  -- A void part would come from one in the cell, and there is none.
  rcases Database.exists_isVoid_of_resolve resolved inside (eq_true_of_ne_false void) with
    ⟨source, within, same, _⟩
  have shaped := (Notation.shaped_of_parse parsed).shaped listed
  rw [(shaped.fits_inside within).isVoid] at same
  cases same

/-- A conjunction of conditions with parts. -/
theorem Condition.isFilled_all {α : Type} {parts : List (Condition α)} (nonempty : parts ≠ [])
    (filled : ∀ part ∈ parts, part.IsFilled) : (Condition.all parts).IsFilled := by
  intro part inside
  cases inside with
  | whole =>
    cases parts with
    | nil => exact absurd rfl nonempty
    | cons part rest => rfl
  | all listed deeper => exact filled _ listed part deeper

theorem Clause.join_isFilled {stored tree : Clause} (first : stored.IsFilled)
    (second : tree.IsFilled) : (stored.join tree).IsFilled := by
  have paired : (Condition.all [stored, tree]).IsFilled := by
    apply Condition.isFilled_all (List.cons_ne_nil _ _)
    exact List.forall_mem_cons.2 ⟨first, List.forall_mem_singleton.2 second⟩
  cases stored with
  | all parts =>
    apply Condition.isFilled_all (List.concat_ne_nil _ _)
    rw [List.forall_mem_append, List.forall_mem_singleton]
    exact ⟨fun part listed own inside => first own (.all listed inside), second⟩
  | leaf value => exact paired
  | any parts => exact paired
  | not part => exact paired

/-! ## Lock levers -/

/-- The lever is registered in one of the two ways. -/
def LeverLocks.Registers (locks : LeverLocks) (lever : LockLever) : Prop :=
  locks.lock = some lever ∨ locks.singleLocked = some lever

/-- Only the lever that comes in is registered anew. -/
theorem DirectionLocks.registers_register {locks : DirectionLocks} {side other : Side}
    {single : Bool} {lever found : LockLever}
    (registers : ((locks.register side single lever).lever other).Registers found) :
    found = lever ∨ (locks.lever other).Registers found := by
  cases side <;> cases other <;> cases single <;>
    simp only [LeverLocks.Registers, register, DirectionLocks.lever, if_true, Bool.false_eq_true,
      if_false, Option.some.injEq] at registers ⊢ <;> grind

namespace LockTable

variable {plant : Database} {config : EngineConfig} {rows : List LockRow} {table : LockTable}

/-- What all contributions have and joining keeps, every stored condition has. -/
theorem forall_mem_clausesOf {property : Clause → Prop}
    (built : (build plant config rows).2 = .ok table) {object : ObjectId} {kind : LockKind}
    (joined : ∀ stored tree, property stored → property tree → property (stored.join tree))
    (contributed : ∀ tree ∈ contributions plant config rows (object, kind), property tree) :
    ∀ tree ∈ table.clausesOf object kind, property tree := by
  have kept : ∀ trees stored : List Clause, (∀ tree ∈ stored, property tree) →
      (∀ tree ∈ trees, property tree) →
      ∀ tree ∈ trees.foldl (extend kind) stored, property tree := by
    intro trees
    induction trees with
    | nil => exact fun stored old _ => old
    | cons next rest inductionHypothesis =>
      intro stored old new
      rw [List.forall_mem_cons] at new
      exact inductionHypothesis _ (forall_mem_extend joined old new.1) new.2
  rw [clausesOf_of_build built]
  exact kept _ [] nofun contributed

/-- A lever is registered for one side of a direction route. -/
def Registers (table : LockTable) (owner : ObjectId) (side : Side) (lever : LockLever) : Prop :=
  ∃ locks, table.directionLocks? owner = some locks ∧ (locks.lever side).Registers lever

theorem registers_registerLever {owner other : ObjectId} {side otherSide : Side} {single : Bool}
    {lever found : LockLever}
    (registers : (table.registerLever owner side single lever).Registers other otherSide found) :
    found = lever ∨ table.Registers other otherSide found := by
  rcases registers with ⟨locks, stored, own⟩
  unfold directionLocks? registerLever at stored
  rw [Table.get?_insert] at stored
  split at stored
  · rename_i same
    cases stored
    rcases DirectionLocks.registers_register own with new | old
    · exact .inl new
    · cases before : table.directionLocks.get? owner with
      | none =>
        rw [before] at old
        cases otherSide <;> rcases old with impossible | impossible <;> cases impossible
      | some locks =>
        rw [before] at old
        exact .inr ⟨locks, same ▸ before, old⟩
  · exact .inr ⟨locks, stored, own⟩

/-- The registered levers are direction routes. -/
def HasTypedLevers (plant : Database) (table : LockTable) : Prop :=
  ∀ owner side lever, table.Registers owner side lever →
    plant.kind lever.directionRoute = .ok .directionRoute

theorem hasTypedLevers_of_build (consistent : plant.Consistent)
    (built : (build plant config rows).2 = .ok table) : table.HasTypedLevers plant := by
  refine take_preserves (fun value member table known => ?_) ?_ (take_of_build built)
  · intro owner side lever registers
    rcases List.mem_flatMap.1 member with ⟨row, _, inside⟩
    have own := LockRow.known_read consistent inside
    cases value with
    | clause object kind tree => exact known owner side lever registers
    | finalTrack route track =>
      refine known owner side lever ?_
      change (table.registerFinalTrack route track).Registers owner side lever at registers
      unfold registerFinalTrack at registers
      split at registers
      · exact registers
      · exact registers
    | lockLever object otherSide single new =>
      rcases registers_registerLever registers with rfl | old
      · exact own
      · exact known owner side lever old
  · rintro owner side lever ⟨locks, impossible, _⟩
    cases impossible

/-- Every leaf of a table over a database that additions have made leads back to a name in a row,
and every leaf that a row puts for a name is typed by the name and its column.  No condition
of the table has a connective without parts, its lock levers are direction routes, and its final
track circuits are track circuits. -/
theorem resolved_leaves_are_typed {adjacency : Adjacency} {additions : List Addition}
    (built : (build (Database.ofAdditions adjacency additions) config rows).2 = .ok table) :
    (∀ object kind, ∀ tree ∈ table.clausesOf object kind,
      (∀ leaf ∈ tree.leaves, ∃ row ∈ rows, ∃ reference : Reference,
        row.Puts (Database.ofAdditions adjacency additions) config (object, kind) reference leaf) ∧
      ∀ part : Clause, part.Inside tree → part.isVoid = false) ∧
    (∀ (key : ObjectId × LockKind) (row : LockRow) (reference : Reference) (leaf : Requirement),
      row.Puts (Database.ofAdditions adjacency additions) config key reference leaf →
        leaf.IsTyped (Database.ofAdditions adjacency additions) row.column reference) ∧
    (∀ owner side lever, table.Registers owner side lever →
      (Database.ofAdditions adjacency additions).kind lever.directionRoute =
        .ok .directionRoute) ∧
    ∀ route track, table.finalTrack? route = some track →
      (Database.ofAdditions adjacency additions).kind track = .ok .trackCircuit := by
  have consistent := Database.consistent_ofAdditions adjacency additions
  refine ⟨fun object kind tree stored => ⟨?_, ?_⟩, fun _ _ _ _ puts => puts.isTyped consistent,
    hasTypedLevers_of_build consistent built, (known_of_build consistent built).finalTracks⟩
  · revert tree
    refine forall_mem_clausesOf built (fun stored tree first second leaf inside => ?_) ?_
    · exact (mem_leaves_join.1 inside).elim (first leaf) (second leaf)
    · exact fun tree contributed leaf inside => exists_puts_of_contributions contributed inside
  · revert tree
    refine forall_mem_clausesOf built (fun _ _ => Clause.join_isFilled) ?_
    exact fun tree contributed => isFilled_of_contributions contributed

/-- A route, a machine, track circuits of the station and of a block section, and direction routes
of the station and of its neighbour. -/
def mixedAdditions : List Addition :=
  [.object ⟨10, "TH75_1R", .route, "TH75"⟩, .object ⟨20, "TH75_W51", .switchingMachine, "TH75"⟩,
    .object ⟨30, "TH75_3T", .trackCircuit, "TH75"⟩,
    .object ⟨40, "上り4T", .trackCircuit, blockSectionPlant⟩,
    .object ⟨50, "TH75_2F", .directionRoute, "TH75"⟩,
    .object ⟨51, "TH76_7F", .directionRoute, "TH76"⟩]

/-- A cell in each of four columns. -/
def mixedRows : List LockRow :=
  [⟨"TH75", "TH75_1R", .switchingMachine, "51"⟩, ⟨"TH75", "TH75_1R", .directLock, "2L"⟩,
    ⟨"TH75", "TH75_1R", .approachLock, "3T [[4T]]"⟩,
    ⟨"TH75", "TH75_2F", .directionLockLeft, "[7R]"⟩]

/-- The direct lock joins a machine and a direction route of two columns, and the approach lock
ends in the block section. -/
theorem mixed_leaves_are_typed :
    ∃ table, (build (Database.ofAdditions .line mixedAdditions) {} mixedRows).2 = .ok table ∧
      (∃ tree ∈ table.clausesOf 10 .directLock,
        tree.leaves = [⟨20, some .normal, none, none, false⟩,
          ⟨50, none, some .left, none, false⟩] ∧
        ∀ leaf ∈ tree.leaves, ∃ row ∈ mixedRows, ∃ reference : Reference,
          leaf.IsTyped (Database.ofAdditions .line mixedAdditions) row.column reference) ∧
      table.Registers 50 .left ⟨51, .right⟩ ∧
      (Database.ofAdditions .line mixedAdditions).kind 51 = .ok .directionRoute ∧
      table.finalTrack? 10 = some 40 ∧
      (Database.ofAdditions .line mixedAdditions).kind 40 = .ok .trackCircuit := by
  have seen : (build (Database.ofAdditions .line mixedAdditions) {} mixedRows).2.toOption.any
      (fun table => decide ((table.clausesOf 10 .directLock).map Condition.leaves =
          [[⟨20, some .normal, none, none, false⟩, ⟨50, none, some .left, none, false⟩]] ∧
        table.directionLocks? 50 = some { left := { lock := some ⟨51, .right⟩ } } ∧
        table.finalTrack? 10 = some 40)) = true := by decide +kernel
  rcases Fallible.exists_of_any seen with ⟨table, built, facts⟩
  rcases of_decide_eq_true facts with ⟨single, locks, track⟩
  rcases List.map_eq_singleton_iff.1 single with ⟨tree, only, leaves⟩
  have stored : tree ∈ table.clausesOf 10 .directLock := only ▸ List.mem_singleton_self tree
  have lever : table.Registers 50 .left ⟨51, .right⟩ := ⟨_, locks, .inl rfl⟩
  rcases resolved_leaves_are_typed built with ⟨sources, typed, levers, tracks⟩
  refine ⟨table, built, ⟨tree, stored, leaves, fun leaf inside => ?_⟩, lever,
    levers 50 .left ⟨51, .right⟩ lever, track, tracks 10 40 track⟩
  rcases (sources 10 .directLock tree stored).1 leaf inside with ⟨row, listed, reference, puts⟩
  exact ⟨row, listed, reference, typed _ row reference leaf puts⟩

end LockTable

end SignalBox
