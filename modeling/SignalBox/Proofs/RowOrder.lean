import Mathlib.Data.List.Perm.Basic
import SignalBox.Proofs.Contributions
import SignalBox.Proofs.DroppedRows

namespace SignalBox

/-!
# The order of rows

Rows are put into the table one after another, but each says on its own what it contributes.
So whether a table is built is a matter of each row alone, and two tables of the same rows in
different orders are made of the same contributions.  Their conditions are different trees,
as further conditions are joined behind earlier ones; they mean the same.

This is about what is interlocked.  Of the lock levers of a direction route the last one is
kept, and of the final track circuits of a route the first one: these do depend on the
order, and nothing is said about them here.
-/

/-- Two conditions have the same value under every predicate of leaves, and ask about the same
objects. -/
structure Clause.Agrees (first second : Clause) : Prop where
  value : ∀ ask : Requirement → Id Bool, (first.evaluate ask).run = (second.evaluate ask).run
  leaves : first.leaves.Perm second.leaves

namespace Clause

variable {tree other : Clause} {parts others : List Clause}

/-- Conjunctions of the same conditions agree, whatever the order of these. -/
theorem Joins.agrees (joins : Joins tree parts) (same : Joins other others)
    (reordered : parts.Perm others) : Agrees tree other where
  value ask := by
    rw [joins.value, same.value]
    exact reordered.all_eq
  leaves := by
    rw [joins.leaves, same.leaves]
    exact reordered.flatMap_right _

end Clause

variable {plant : Database} {config : EngineConfig} {rows others : List LockRow}

theorem contributions_perm (reordered : rows.Perm others) (key : ObjectId × LockKind) :
    (contributions plant config rows key).Perm (contributions plant config others key) :=
  (reordered.filter _).flatMap_right _

namespace LockTable

variable {table other : LockTable}

/-- A kind of lock without contributions has no condition in a built table. -/
theorem clause?_of_nothing (built : (build plant config rows).2 = .ok table) {object : ObjectId}
    {kind : LockKind} (nothing : contributions plant config rows (object, kind) = []) :
    table.clause? object kind = none := by
  rw [clause?, clausesOf_of_build built, nothing]
  rfl

/-- A kind of lock with contributions has one condition, which stands for all of them. -/
theorem exists_clause?_of_build (built : (build plant config rows).2 = .ok table)
    {object : ObjectId} {kind : LockKind} (merged : kind ≠ .routeLock)
    (contributed : contributions plant config rows (object, kind) ≠ []) :
    ∃ tree, table.clause? object kind = some tree ∧
      tree.Joins (contributions plant config rows (object, kind)) := by
  rcases (stores_of_build built).exists_clausesOf merged contributed with ⟨tree, stored, joins⟩
  rw [clause?, stored]
  exact ⟨tree, rfl, joins⟩

section Reordered

variable (reordered : rows.Perm others)
include reordered

theorem build_succeeds_of_perm :
    Succeeds (build plant config rows).2 ↔ Succeeds (build plant config others).2 := by
  simp only [build_succeeds_iff_passes, reordered.mem_iff]

variable (built : (build plant config rows).2 = .ok table)
  (rebuilt : (build plant config others).2 = .ok other)
include built rebuilt

theorem clause?_agrees_of_perm (object : ObjectId) {kind : LockKind}
    (merged : kind ≠ .routeLock) :
    Option.Rel Clause.Agrees (table.clause? object kind) (other.clause? object kind) := by
  have contributed : (contributions plant config rows (object, kind)).Perm
      (contributions plant config others (object, kind)) := contributions_perm reordered _
  by_cases nothing : contributions plant config rows (object, kind) = []
  · have none : contributions plant config others (object, kind) = [] :=
      (nothing ▸ contributed).nil_eq.symm
    rw [clause?_of_nothing built nothing, clause?_of_nothing rebuilt none]
    exact .none
  · have some : contributions plant config others (object, kind) ≠ [] :=
      fun none => nothing (none ▸ contributed).eq_nil
    rcases exists_clause?_of_build built merged nothing with ⟨tree, stored, joins⟩
    rcases exists_clause?_of_build rebuilt merged some with ⟨image, restored, same⟩
    rw [stored, restored]
    exact .some (joins.agrees same contributed)

theorem routeLocks_perm_of_perm (object : ObjectId) :
    (table.routeLocks object).Perm (other.routeLocks object) := by
  rw [(stores_of_build built).routeLocks_eq, (stores_of_build rebuilt).routeLocks_eq]
  exact contributions_perm reordered _

end Reordered

/-- Rows in another order are built just if each of them can be built alone, as they are in
their own; and the two tables then have conditions that mean the same, and the same
alternatives of route locks. -/
theorem row_order_keeps_meaning (plant : Database) (config : EngineConfig)
    (reordered : rows.Perm others) :
    (Succeeds (build plant config rows).2 ↔ Succeeds (build plant config others).2) ∧
    (Succeeds (build plant config rows).2 ↔
      ∀ row, row ∈ rows → Succeeds (build plant config [row]).2) ∧
    ∀ table other, (build plant config rows).2 = .ok table →
      (build plant config others).2 = .ok other →
      (∀ object kind, kind ≠ .routeLock →
        Option.Rel Clause.Agrees (table.clause? object kind) (other.clause? object kind)) ∧
      ∀ object, (table.routeLocks object).Perm (other.routeLocks object) := by
  refine ⟨build_succeeds_of_perm reordered, ?_, fun table other built rebuilt => ⟨?_, ?_⟩⟩
  · rw [build_succeeds_iff_passes]
    simp only [build_single_succeeds_iff]
  · exact fun object kind merged => clause?_agrees_of_perm reordered built rebuilt object merged
  · exact routeLocks_perm_of_perm reordered built rebuilt

/-- Read backwards, the rows give the direct lock of the route another condition, which means
the same. -/
theorem joined_rows_keep_meaning_backwards :
    ∃ table other, (build joinedPlant joinedConfig joinedRows).2 = .ok table ∧
      (build joinedPlant joinedConfig joinedRows.reverse).2 = .ok other ∧
      table.clause? 10 .directLock ≠ other.clause? 10 .directLock ∧
      Option.Rel Clause.Agrees (table.clause? 10 .directLock) (other.clause? 10 .directLock) := by
  have order : joinedRows.Perm joinedRows.reverse := joinedRows.reverse_perm.symm
  rcases row_order_keeps_meaning joinedPlant joinedConfig order with ⟨same, alone, agree⟩
  have accepted : Succeeds (build joinedPlant joinedConfig joinedRows).2 :=
    alone.2 (by decide +kernel)
  have differ : (build joinedPlant joinedConfig joinedRows).2.toOption.map
        (fun table => table.clause? 10 .directLock) ≠
      (build joinedPlant joinedConfig joinedRows.reverse).2.toOption.map
        (fun table => table.clause? 10 .directLock) := by decide +kernel
  rcases same.1 accepted with ⟨other, rebuilt⟩
  rcases accepted with ⟨table, built⟩
  rw [built, rebuilt] at differ
  refine ⟨table, other, built, rebuilt, fun equal => differ (congrArg some equal), ?_⟩
  exact (agree table other built rebuilt).1 10 .directLock (by decide)

end LockTable

end SignalBox
