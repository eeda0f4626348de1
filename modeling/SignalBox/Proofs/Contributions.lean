import Mathlib.Algebra.GroupWithZero.Nat
import Mathlib.Data.List.Dedup
import SignalBox.Proofs.Lists
import SignalBox.Proofs.Targets

namespace SignalBox

/-!
# What rows contribute to the lock table

The condition that the table keeps for an object and a kind of lock is put together from the
rows that feed the two.  `contributions` collects these rows' conditions without building
anything: row after row, and within a row in the order of its cell.  A table that was built
keeps them and nothing else.  The alternatives of a route lock stay as they came; for
every other kind one condition stands for all, which holds exactly where each of them does
and asks about their objects in their order.

That a condition was skipped is not seen here: what does not resolve contributes nothing.
-/

/-! ## One condition for several -/

/-- The condition says what the conditions of a list say together: for every predicate of
leaves it has their values' conjunction, and its leaves are theirs in order. -/
structure Clause.Joins (tree : Clause) (parts : List Clause) : Prop where
  value : ∀ ask : Requirement → Id Bool,
    (tree.evaluate ask).run = parts.all fun part => (part.evaluate ask).run
  leaves : tree.leaves = parts.flatMap Condition.leaves

namespace Clause

variable {stored tree : Clause} {parts : List Clause}

theorem joins_single (tree : Clause) : Joins tree [tree] where
  value _ := (Bool.and_true _).symm
  leaves := (List.append_nil _).symm

theorem joins_all (parts : List Clause) : Joins (.all parts) parts where
  value ask := Condition.run_evaluateAll ask parts
  leaves := Condition.leavesOf_eq parts

/-- What is joined to a conjunction of the earlier ones is joined to the earlier ones. -/
private theorem Joins.append {others : List Clause} (joins : Joins (.all others) parts)
    (tree : Clause) : Joins (.all (others ++ [tree])) (parts ++ [tree]) where
  value ask := by
    rw [(joins_all _).value, List.all_append, List.all_append, ← joins.value,
      (joins_all others).value]
  leaves := by
    rw [(joins_all _).leaves, List.flatMap_append, List.flatMap_append, ← joins.leaves,
      (joins_all others).leaves]

/-- A further condition is joined behind the earlier ones, whether or not the stored one is
a conjunction already. -/
theorem Joins.join (joins : Joins stored parts) (tree : Clause) :
    Joins (stored.join tree) (parts ++ [tree]) := by
  have wrapped : Joins (.all [stored]) parts := by
    refine ⟨fun ask => ?_, ?_⟩
    · rw [(joins_all [stored]).value, ← joins.value]
      exact Bool.and_true _
    · rw [(joins_all [stored]).leaves, ← joins.leaves]
      exact List.append_nil _
  cases stored with
  | all others => exact joins.append tree
  | leaf value => exact wrapped.append tree
  | any others => exact wrapped.append tree
  | not part => exact wrapped.append tree

theorem Joins.foldl_join (joins : Joins stored parts) (others : List Clause) :
    Joins (others.foldl Clause.join stored) (parts ++ others) := by
  induction others generalizing stored parts with
  | nil =>
    rw [List.append_nil]
    exact joins
  | cons tree rest inductionHypothesis =>
    have next := inductionHypothesis (joins.join tree)
    rw [List.append_assoc] at next
    exact next

end Clause

/-! ## Contributions of rows -/

namespace LockRow

variable (plant : Database) (config : EngineConfig) (row : LockRow)

/-- The object and the kind of lock that a row has conditions for.  Rows of plants that are
not loaded, direction-lock cells and rows of unknown objects have none. -/
def feeds? : Option (ObjectId × LockKind) :=
  if config.loads row.plant && row.column.directionSide?.isNone then
    (plant.find? row.object).map fun owner => (owner.id, row.column.lockKind)
  else none

/-- The conditions of a row that can be resolved, in the order of its cell. -/
def conditions : List Clause :=
  match Notation.parse ⟨plant.adjacency, row.plant, row.column⟩ row.raw with
  | .ok (some cell) => cell.trees.filterMap fun tree => (plant.resolve row.column tree).toOption
  | _ => []

end LockRow

/-- The conditions of all rows that feed an object and a kind of lock, in their order. -/
def contributions (plant : Database) (config : EngineConfig) (rows : List LockRow)
    (key : ObjectId × LockKind) : List Clause :=
  (rows.filter fun row => row.feeds? plant config == some key).flatMap
    (LockRow.conditions plant)

/-- The objects and kinds of lock with a contribution, each pair once. -/
def contributedKeys (plant : Database) (config : EngineConfig) (rows : List LockRow) :
    List (ObjectId × LockKind) :=
  ((rows.filterMap (LockRow.feeds? plant config)).dedup).filter fun key =>
    !(contributions plant config rows key).isEmpty

/-- The condition that a contribution has for a key. -/
def Contribution.tree? (key : ObjectId × LockKind) : Contribution → Option Clause
  | .entry (.clause owner kind tree) => if (owner, kind) = key then some tree else none
  | _ => none

namespace LockRow

variable {plant : Database} {config : EngineConfig} {row : LockRow} {owner : PlantObject}
  {key : ObjectId × LockKind}

theorem tree?_unresolved (error : ResolveError) :
    (row.unresolved config error).tree? key = none := by
  cases contributed : row.unresolved config error with
  | entry value => exact absurd contributed.symm entry_ne_unresolved
  | skip notice => rfl
  | fault error => rfl

theorem tree?_readDirectionLock (side : Side) (cell : Option Notation.Cell) :
    (row.readDirectionLock plant config owner side cell).tree? key = none := by
  unfold readDirectionLock
  split
  · rfl
  · split
    · split
      · rfl
      · exact tree?_unresolved _
    · rfl

/-- Of the entries of a resolved condition only the condition itself is one for a key; a
final track circuit may stand before it. -/
theorem filterMap_resolvedEntries (tree : Clause) :
    ((row.resolvedEntries plant owner tree).map .entry).filterMap (Contribution.tree? key) =
      if (owner.id, row.column.lockKind) = key then [tree] else [] := by
  have track : ∀ tracks : List ObjectId,
      ((tracks.map fun track => LockEntry.finalTrack owner.id track).map
        Contribution.entry).filterMap (Contribution.tree? key) = [] := by
    intro tracks
    rw [List.map_map, List.filterMap_map, List.filterMap_eq_nil_iff]
    exact fun _ _ => rfl
  have clause : ([LockEntry.clause owner.id row.column.lockKind tree].map
      Contribution.entry).filterMap (Contribution.tree? key) =
        if (owner.id, row.column.lockKind) = key then [tree] else [] := by
    by_cases same : (owner.id, row.column.lockKind) = key <;>
      simp [Contribution.tree?, same]
  unfold resolvedEntries
  rw [List.map_append, List.filterMap_append, clause]
  split
  · rw [track, List.nil_append]
  · rfl

theorem filterMap_readTree (tree : Notation.Tree) :
    (row.readTree plant config owner tree).filterMap (Contribution.tree? key) =
      if (owner.id, row.column.lockKind) = key then (plant.resolve row.column tree).toOption.toList
      else [] := by
  unfold readTree
  cases plant.resolve row.column tree with
  | ok resolved => exact filterMap_resolvedEntries resolved
  | error error =>
    rw [List.filterMap_cons_none (tree?_unresolved error), List.filterMap_nil]
    split <;> rfl

/-- The conditions that a row of a known owner contributes for a key. -/
theorem filterMap_readOwned :
    (row.readOwned plant config owner).filterMap (Contribution.tree? key) =
      if row.column.directionSide? = none ∧ (owner.id, row.column.lockKind) = key then
        row.conditions plant
      else [] := by
  unfold readOwned conditions
  cases Notation.parse ⟨plant.adjacency, row.plant, row.column⟩ row.raw with
  | error cause =>
    dsimp only
    split <;> rfl
  | ok cell =>
    dsimp only
    cases direction : row.column.directionSide? with
    | some side =>
      rw [if_neg (by simp), List.filterMap_cons_none (tree?_readDirectionLock side cell),
        List.filterMap_nil]
    | none =>
      dsimp only
      simp only [List.filterMap_flatMap, filterMap_readTree, true_and]
      split
      · rw [← List.filterMap_eq_flatMap_toList]
        cases cell <;> rfl
      · exact List.flatMap_eq_nil_iff.2 fun _ _ => rfl

/-- What a row contributes for a key is decided by the key that it feeds. -/
theorem filterMap_read :
    (row.read plant config).filterMap (Contribution.tree? key) =
      if row.feeds? plant config = some key then row.conditions plant else [] := by
  unfold read feeds?
  cases config.loads row.plant with
  | false => rfl
  | true =>
    cases plant.find? row.object with
    | none =>
      rw [Option.map_none, ite_self, if_neg nofun]
      dsimp only [Bool.not_true, Bool.false_eq_true, if_false]
      split <;> rfl
    | some owner =>
      rw [Bool.true_and, Option.map_some]
      refine filterMap_readOwned.trans ?_
      cases row.column.directionSide? with
      | none => simp
      | some side => simp

end LockRow

/-- The contributions of all rows are taken in the order of the rows. -/
theorem filterMap_flatMap_read (plant : Database) (config : EngineConfig) (rows : List LockRow)
    (key : ObjectId × LockKind) :
    (rows.flatMap (LockRow.read plant config)).filterMap (Contribution.tree? key) =
      contributions plant config rows key := by
  rw [contributions, List.filterMap_flatMap, Lists.flatMap_filter]
  simp only [LockRow.filterMap_read, beq_iff_eq]

/-! ## What the table stores -/

namespace LockTable

variable {plant : Database} {config : EngineConfig} {rows : List LockRow} {table last : LockTable}

/-- The stored conditions of a key once a further one is added to it. -/
def store (kind : LockKind) (stored : Option (List Clause)) (tree : Clause) :
    Option (List Clause) :=
  some (extend kind (stored.getD []) tree)

/-- Every condition that is taken for a key is stored under it, in the order of taking. -/
theorem get?_of_take {key : ObjectId × LockKind} {taken : List Contribution}
    (built : (table.take taken).2 = .ok last) :
    last.clauses.get? key =
      (taken.filterMap (Contribution.tree? key)).foldl (store key.2) (table.clauses.get? key) := by
  induction taken generalizing table with
  | nil =>
    cases built
    rfl
  | cons contribution rest inductionHypothesis =>
    cases contribution with
    | fault error => cases built
    | skip notice => exact inductionHypothesis built
    | entry value =>
      refine (inductionHypothesis built).trans ?_
      cases value with
      | lockLever owner side single lever => rfl
      | finalTrack route track =>
        simp only [enter, registerFinalTrack]
        split <;> rfl
      | clause owner kind tree =>
        simp only [enter, insert, Table.get?_insert]
        by_cases same : (owner, kind) = key
        · have chosen : (Contribution.entry (.clause owner kind tree)).tree? key = some tree :=
            if_pos same
          rw [if_pos same, List.filterMap_cons_some chosen, List.foldl_cons]
          subst same
          rfl
        · have passed : (Contribution.entry (.clause owner kind tree)).tree? key = none :=
            if_neg same
          rw [if_neg same, List.filterMap_cons_none passed]

theorem foldl_store_some (kind : LockKind) (stored : List Clause) (trees : List Clause) :
    trees.foldl (store kind) (some stored) = some (trees.foldl (extend kind) stored) := by
  induction trees generalizing stored with
  | nil => rfl
  | cons tree rest inductionHypothesis => exact inductionHypothesis (extend kind stored tree)

/-- A key is stored only with a condition, and all conditions for it make up what is
stored. -/
theorem foldl_store_none (kind : LockKind) (trees : List Clause) :
    trees.foldl (store kind) none =
      if trees = [] then none else some (trees.foldl (extend kind) []) := by
  cases trees with
  | nil => rfl
  | cons tree rest =>
    rw [if_neg (List.cons_ne_nil tree rest)]
    exact foldl_store_some kind _ rest

theorem extend_routeLock (stored : List Clause) (tree : Clause) :
    extend .routeLock stored tree = stored ++ [tree] :=
  if_pos rfl

theorem extend_nil {kind : LockKind} (other : kind ≠ .routeLock) (tree : Clause) :
    extend kind [] tree = [tree] :=
  if_neg other

theorem extend_single {kind : LockKind} (other : kind ≠ .routeLock) (stored tree : Clause) :
    extend kind [stored] tree = [stored.join tree] :=
  if_neg other

theorem foldl_extend_routeLock (stored trees : List Clause) :
    trees.foldl (extend .routeLock) stored = stored ++ trees := by
  induction trees generalizing stored with
  | nil => exact (List.append_nil stored).symm
  | cons tree rest inductionHypothesis =>
    rw [List.foldl_cons, inductionHypothesis, extend_routeLock, List.append_assoc]
    rfl

theorem foldl_extend_single {kind : LockKind} (other : kind ≠ .routeLock) (stored : Clause)
    (trees : List Clause) :
    trees.foldl (extend kind) [stored] = [trees.foldl Clause.join stored] := by
  induction trees generalizing stored with
  | nil => rfl
  | cons tree rest inductionHypothesis =>
    rw [List.foldl_cons, extend_single other]
    exact inductionHypothesis (stored.join tree)

theorem foldl_extend_nil {kind : LockKind} (other : kind ≠ .routeLock) (first : Clause)
    (rest : List Clause) :
    (first :: rest).foldl (extend kind) [] = [rest.foldl Clause.join first] := by
  rw [List.foldl_cons, extend_nil other]
  exact foldl_extend_single other first rest

/-- The table stores under each key what the conditions of the key come to one after another, and
nothing where there are none. -/
def Stores (table : LockTable) (parts : ObjectId × LockKind → List Clause) : Prop :=
  ∀ key, table.clauses.get? key =
    if parts key = [] then none else some ((parts key).foldl (extend key.2) [])

namespace Stores

variable {parts : ObjectId × LockKind → List Clause} (stores : table.Stores parts)
include stores

theorem clausesOf_eq (object : ObjectId) (kind : LockKind) :
    table.clausesOf object kind = (parts (object, kind)).foldl (extend kind) [] := by
  rw [clausesOf, stores]
  split
  · next empty =>
    rw [empty]
    rfl
  · rfl

theorem mem_keys {key : ObjectId × LockKind} : key ∈ table.clauses.keys ↔ parts key ≠ [] := by
  rw [Table.mem_keys_iff_get?, stores]
  split
  · next empty => simp [empty]
  · next nonempty => simp [nonempty]

theorem routeLocks_eq (object : ObjectId) :
    table.routeLocks object = parts (object, .routeLock) := by
  rw [routeLocks, stores.clausesOf_eq, foldl_extend_routeLock, List.nil_append]

/-- Apart from the route lock one condition stands for all that a key has. -/
theorem exists_clausesOf {object : ObjectId} {kind : LockKind} (merged : kind ≠ .routeLock)
    (nonempty : parts (object, kind) ≠ []) :
    ∃ tree, table.clausesOf object kind = [tree] ∧ tree.Joins (parts (object, kind)) := by
  rcases List.exists_cons_of_ne_nil nonempty with ⟨first, rest, same⟩
  rw [stores.clausesOf_eq, same, foldl_extend_nil merged]
  exact ⟨_, rfl, (Clause.joins_single first).foldl_join rest⟩

end Stores

/-- What a built table stores under a key is made of the contributions for it. -/
theorem stores_of_build (built : (build plant config rows).2 = .ok table) :
    table.Stores (contributions plant config rows) := by
  intro key
  rw [get?_of_take (take_of_build built), filterMap_flatMap_read]
  exact foldl_store_none key.2 _

theorem clausesOf_of_build (built : (build plant config rows).2 = .ok table) (object : ObjectId)
    (kind : LockKind) :
    table.clausesOf object kind =
      (contributions plant config rows (object, kind)).foldl (extend kind) [] :=
  (stores_of_build built).clausesOf_eq object kind

/-! ## The number of conditions -/

theorem feeds_of_contributions {key : ObjectId × LockKind}
    (nonempty : contributions plant config rows key ≠ []) :
    key ∈ rows.filterMap (LockRow.feeds? plant config) := by
  rcases List.exists_mem_of_ne_nil _ nonempty with ⟨tree, member⟩
  rcases List.mem_flatMap.1 member with ⟨row, listed, _⟩
  rcases List.mem_filter.1 listed with ⟨present, fed⟩
  exact List.mem_filterMap.2 ⟨row, present, beq_iff_eq.1 fed⟩

theorem mem_contributedKeys {key : ObjectId × LockKind} :
    key ∈ contributedKeys plant config rows ↔ contributions plant config rows key ≠ [] := by
  rw [contributedKeys, List.mem_filter, List.mem_dedup, Bool.not_eq_true', ← Bool.not_eq_true,
    List.isEmpty_iff]
  exact ⟨And.right, fun nonempty => ⟨feeds_of_contributions nonempty, nonempty⟩⟩

/-- The stored keys are those with a contribution. -/
theorem keys_perm_of_build (built : (build plant config rows).2 = .ok table) :
    table.clauses.keys.Perm (contributedKeys plant config rows) := by
  refine (List.perm_ext_iff_of_nodup table.clauses.nodup ?_).2 fun key => ?_
  · exact (List.nodup_dedup _).filter _
  · exact (stores_of_build built).mem_keys.trans mem_contributedKeys.symm

theorem size_eq_sum (table : LockTable) :
    table.size =
      (table.clauses.keys.map fun key => (table.clausesOf key.1 key.2).length).sum := by
  have counted : (table.clauses.keys.map table.clauses.get?).map
      (fun stored => (stored.getD []).length) = table.clauses.values.map List.length := by
    rw [Table.map_get?_keys, List.map_map]
    rfl
  rw [size, List.length_flatten, ← counted, List.map_map]
  rfl

/-- The conditions that are kept of the contributions for a key. -/
theorem length_clausesOf_of_build (built : (build plant config rows).2 = .ok table)
    {key : ObjectId × LockKind} (fed : contributions plant config rows key ≠ []) :
    (table.clausesOf key.1 key.2).length =
      if key.2 = .routeLock then (contributions plant config rows key).length else 1 := by
  rw [clausesOf_of_build built]
  split
  · next routeLock =>
    rw [routeLock, foldl_extend_routeLock, List.nil_append, ← routeLock]
  · next other =>
    cases contributed : contributions plant config rows key with
    | nil => exact absurd contributed fed
    | cons first rest =>
      rw [foldl_extend_nil other]
      rfl

private theorem lockKind_ne_directionLock {column : LockColumn}
    (plain : column.directionSide? = none) : column.lockKind ≠ .directionLock := by
  revert plain
  cases column <;> decide

/-- No row feeds the direction lock with a condition: its cells name lock levers. -/
theorem contributions_directionLock (plant : Database) (config : EngineConfig)
    (rows : List LockRow) (object : ObjectId) :
    contributions plant config rows (object, .directionLock) = [] := by
  refine List.flatMap_eq_nil_iff.2 fun row member => ?_
  have fed := beq_iff_eq.1 (List.mem_filter.1 member).2
  unfold LockRow.feeds? at fed
  split at fed
  · next loaded =>
    rw [Bool.and_eq_true, Option.isNone_iff_eq_none] at loaded
    rcases Option.map_eq_some_iff.1 fed with ⟨owner, _, same⟩
    exact absurd (congrArg Prod.snd same) (lockKind_ne_directionLock loaded.2)
  · cases fed

/-! ## The whole table -/

/-- A table that was built holds what its rows contribute.  For a kind of lock other than the
route lock an object has no condition where there is no contribution and otherwise exactly
one, which says what its contributions say together; the alternatives of its route lock are
its contributions; the direction lock has no condition; and beyond these there is none. -/
theorem built_table_holds_contributions (built : (build plant config rows).2 = .ok table) :
    (∀ object kind, kind ≠ .routeLock →
      (contributions plant config rows (object, kind) = [] → table.clausesOf object kind = []) ∧
      (contributions plant config rows (object, kind) ≠ [] →
        ∃ tree, table.clausesOf object kind = [tree] ∧
          tree.Joins (contributions plant config rows (object, kind)))) ∧
    (∀ object,
      table.routeLocks object = contributions plant config rows (object, .routeLock)) ∧
    (∀ object, table.clausesOf object .directionLock = []) ∧
    table.size = ((contributedKeys plant config rows).map fun key =>
      if key.2 = .routeLock then (contributions plant config rows key).length else 1).sum := by
  refine ⟨fun object kind other => ⟨fun empty => ?_, fun nonempty => ?_⟩, fun object => ?_,
    fun object => ?_, ?_⟩
  · rw [clausesOf_of_build built, empty]
    rfl
  · rcases List.exists_cons_of_ne_nil nonempty with ⟨first, rest, contributed⟩
    rw [clausesOf_of_build built, contributed, foldl_extend_nil other]
    exact ⟨_, rfl, (Clause.joins_single first).foldl_join rest⟩
  · rw [routeLocks, clausesOf_of_build built, foldl_extend_routeLock, List.nil_append]
  · rw [clausesOf_of_build built, contributions_directionLock]
    rfl
  · rw [size_eq_sum, ((keys_perm_of_build built).map _).sum_nat]
    refine congrArg List.sum (List.map_congr_left fun key member => ?_)
    exact length_clausesOf_of_build built (mem_contributedKeys.1 member)

/-- A plant with a route over a machine and a track circuit. -/
def joinedPlant : Database where
  objects := [⟨10, "TH71_1R", .route, "TH71"⟩, ⟨20, "TH71_W51", .switchingMachine, "TH71"⟩,
    ⟨30, "TH71_3T", .trackCircuit, "TH71"⟩]

/-- Only the rows of the plant itself are loaded. -/
def joinedConfig : EngineConfig where
  plantFilter := some ["TH71"]

def joinedRows : List LockRow :=
  [⟨"TH71", "TH71_1R", .directLock, "3T 但 3T"⟩, ⟨"TH71", "TH71_1R", .routeLock, "(3T) (3T 3T)"⟩,
    ⟨"TH70", "TH71_1R", .directLock, "3T"⟩, ⟨"TH71", "TH71_1R", .switchingMachine, "51"⟩]

/-- Two columns feed the direct lock of the route, and a row of another plant would, too. -/
theorem joined_table_holds_contributions :
    ∃ table tree, (build joinedPlant joinedConfig joinedRows).2 = .ok table ∧
      (contributions joinedPlant joinedConfig joinedRows
        (10, .directLock)).length = 2 ∧
      table.clausesOf 10 .directLock = [tree] ∧
      tree.Joins (contributions joinedPlant joinedConfig joinedRows
        (10, .directLock)) ∧
      (table.routeLocks 10).length = 2 ∧ table.size = 3 := by
  have accepted : Succeeds (build joinedPlant joinedConfig joinedRows).2 :=
    Fallible.isOk_iff.1 (by decide +kernel)
  rcases accepted with ⟨table, built⟩
  rcases built_table_holds_contributions built with ⟨merged, alternatives, _, counted⟩
  have two : (contributions joinedPlant joinedConfig joinedRows
      (10, .directLock)).length = 2 := by decide +kernel
  have nonempty : contributions joinedPlant joinedConfig joinedRows
      (10, .directLock) ≠ [] := by
    rw [← List.length_pos_iff, two]
    decide
  rcases (merged 10 .directLock (by decide)).2 nonempty with ⟨tree, stored, joins⟩
  refine ⟨table, tree, built, two, stored, joins, ?_, ?_⟩
  · rw [alternatives]
    decide +kernel
  · rw [counted]
    decide +kernel

end LockTable

end SignalBox
