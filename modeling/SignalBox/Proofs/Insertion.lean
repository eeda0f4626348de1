import Mathlib.Data.List.Induction
import SignalBox.Proofs.CoveredStates

namespace SignalBox

/-!
# Tables of inserted conditions

A condition can be inserted into a table without a row behind it, and it can be of any shape.  An
insertion takes the stored condition out and puts a merged one back: a stored conjunction is
extended in place, any other condition is wrapped together with the new one.  So the stored tree
depends on history.  A conjunction that comes first is opened up, and one that comes later stays a
part of its own.

What does not depend on it is what `Clause.Joins` says: the value under every predicate and the
leaves in their order.  One insertion appends a condition to those of its key and leaves those of
the other keys alone; a sequence of them, put into an empty table, stores the conditions of each key
and no more.
-/

namespace LockTable

/-- The conditions of a list of insertions that are meant for a key, in their order. -/
def insertedFor (further : List (ObjectId × LockKind × Clause)) (key : ObjectId × LockKind) :
    List Clause :=
  (further.filter fun entry => (entry.1, entry.2.1) == key).map fun entry => entry.2.2

variable {table : LockTable} {parts extended : ObjectId × LockKind → List Clause}

/-! ## One insertion -/

theorem get?_insert_of_ne {object : ObjectId} {kind : LockKind} {key : ObjectId × LockKind}
    (other : key ≠ (object, kind)) (tree : Clause) :
    (table.insert object kind tree).clauses.get? key = table.clauses.get? key := by
  rw [insert, Table.get?_insert, if_neg other.symm]

/-- A table that stores conditions stores one more of a key once it is inserted. -/
theorem Stores.insert (stores : table.Stores parts) {object : ObjectId} {kind : LockKind}
    {tree : Clause} (own : extended (object, kind) = parts (object, kind) ++ [tree])
    (others : ∀ key, key ≠ (object, kind) → extended key = parts key) :
    (table.insert object kind tree).Stores extended := by
  intro key
  by_cases same : key = (object, kind)
  · subst same
    rw [own, if_neg (List.concat_ne_nil tree _), List.foldl_concat, ← stores.clausesOf_eq,
      LockTable.insert, Table.get?_insert, if_pos rfl]
  · rw [others key same, get?_insert_of_ne same]
    exact stores key

theorem extend_ne_nil (kind : LockKind) (stored : List Clause) (tree : Clause) :
    extend kind stored tree ≠ [] := by
  unfold extend
  split
  · exact List.concat_ne_nil tree stored
  · split <;> exact List.cons_ne_nil _ _

/-- What is stored under a key is never nothing. -/
theorem Stores.eq_nil_of_clausesOf (stores : table.Stores parts) {object : ObjectId}
    {kind : LockKind} (nothing : table.clausesOf object kind = []) : parts (object, kind) = [] := by
  rcases List.eq_nil_or_concat (parts (object, kind)) with none | ⟨before, last, same⟩
  · exact none
  · rw [stores.clausesOf_eq, same, List.concat_eq_append, List.foldl_concat] at nothing
    exact absurd nothing (extend_ne_nil kind _ last)

theorem clausesOf_of_isEmpty (empty : table.isEmpty = true) (object : ObjectId)
    (kind : LockKind) : table.clausesOf object kind = [] := by
  rw [clausesOf, Table.get?, List.isEmpty_iff.1 empty]
  rfl

theorem clausesOf_of_size_eq_zero (counted : table.size = 0) (object : ObjectId)
    (kind : LockKind) : table.clausesOf object kind = [] := by
  cases stored : table.clauses.get? (object, kind) with
  | none => rw [clausesOf, stored, Option.getD_none]
  | some trees =>
    rw [clausesOf, stored, Option.getD_some]
    exact List.flatten_eq_nil_iff.1 (List.length_eq_zero_iff.1 counted) trees
      (Table.mem_values_of_get? stored)

/-! ## Sequences of insertions -/

variable {further : List (ObjectId × LockKind × Clause)}

theorem insertedFor_append (first second : List (ObjectId × LockKind × Clause))
    (key : ObjectId × LockKind) :
    insertedFor (first ++ second) key = insertedFor first key ++ insertedFor second key := by
  rw [insertedFor, List.filter_append, List.map_append]
  rfl

theorem insertedFor_single (object : ObjectId) (kind : LockKind) (tree : Clause) :
    insertedFor [(object, kind, tree)] (object, kind) = [tree] := by
  simp [insertedFor]

theorem insertedFor_single_of_ne {object : ObjectId} {kind : LockKind} {key : ObjectId × LockKind}
    (other : key ≠ (object, kind)) (tree : Clause) :
    insertedFor [(object, kind, tree)] key = [] := by
  simp [insertedFor, other.symm]

/-- By induction from the last insertion: an empty table stores what is inserted. -/
theorem stores_insertAll (further : List (ObjectId × LockKind × Clause)) :
    (insertAll {} further).Stores (insertedFor further) := by
  induction further using List.reverseRecOn with
  | nil => exact fun _ => rfl
  | append_singleton before entry inductionHypothesis =>
    rw [insertAll, List.foldl_concat]
    refine inductionHypothesis.insert ?_ fun key other => ?_
    · rw [insertedFor_append, insertedFor_single]
    · rw [insertedFor_append, insertedFor_single_of_ne other, List.append_nil]

/-- Every insertion is meant for some key. -/
theorem eq_nil_of_insertedFor (nothing : ∀ key, insertedFor further key = []) : further = [] := by
  cases further with
  | nil => rfl
  | cons entry rest =>
    have own := nothing (entry.1, entry.2.1)
    rw [← List.singleton_append, insertedFor_append, insertedFor_single] at own
    cases own

theorem eq_nil_of_clausesOf_insertAll
    (nothing : ∀ object kind, (insertAll {} further).clausesOf object kind = []) : further = [] :=
  eq_nil_of_insertedFor fun key =>
    (stores_insertAll further).eq_nil_of_clausesOf (nothing key.1 key.2)

/-- Whatever is inserted into an empty table, and in whatever order, is kept.  Under a kind of lock
other than the route lock an object has one condition for all that were inserted, which says what
they say together; under the route lock it has them as they came.  Nothing is stored beyond that, an
insertion changes no other key, and the table is empty just if nothing was inserted. -/
theorem inserted_conditions_are_kept (further : List (ObjectId × LockKind × Clause)) :
    (∀ object kind, kind ≠ .routeLock → insertedFor further (object, kind) ≠ [] →
      ∃ tree, (insertAll {} further).clauses.get? (object, kind) = some [tree] ∧
        (insertAll {} further).clause? object kind = some tree ∧
        tree.Joins (insertedFor further (object, kind))) ∧
    (∀ object, insertedFor further (object, .routeLock) ≠ [] →
      (insertAll {} further).clauses.get? (object, .routeLock) =
        some (insertedFor further (object, .routeLock))) ∧
    (∀ object,
      (insertAll {} further).routeLocks object = insertedFor further (object, .routeLock) ∧
      (insertAll {} further).clause? object .routeLock =
        (insertedFor further (object, .routeLock)).head?) ∧
    (∀ object kind, insertedFor further (object, kind) = [] →
      (insertAll {} further).clauses.get? (object, kind) = none ∧
      (insertAll {} further).clause? object kind = none) ∧
    (∀ object kind tree key, key ≠ (object, kind) →
      ((insertAll {} further).insert object kind tree).clauses.get? key =
        (insertAll {} further).clauses.get? key) ∧
    ((insertAll {} further).isEmpty = true ↔ (insertAll {} further).size = 0) ∧
    ((insertAll {} further).size = 0 ↔ further = []) := by
  have stores := stores_insertAll further
  have counted : (insertAll {} further).size = 0 ↔ further = [] :=
    ⟨fun none => eq_nil_of_clausesOf_insertAll (clausesOf_of_size_eq_zero none), by rintro rfl; rfl⟩
  have emptied : (insertAll {} further).isEmpty = true ↔ further = [] :=
    ⟨fun none => eq_nil_of_clausesOf_insertAll (clausesOf_of_isEmpty none), by rintro rfl; rfl⟩
  refine ⟨fun object kind merged inserted => ?_, fun object inserted => ?_, fun object => ?_,
    fun object kind absent => ?_, fun object kind tree key other => get?_insert_of_ne other tree,
    emptied.trans counted.symm, counted⟩
  · rcases stores.exists_clausesOf merged inserted with ⟨tree, single, joins⟩
    refine ⟨tree, ?_, ?_, joins⟩
    · rw [stores, if_neg inserted, ← stores.clausesOf_eq, single]
    · rw [clause?, single]
      rfl
  · rw [stores, if_neg inserted, ← stores.clausesOf_eq]
    exact congrArg some (stores.routeLocks_eq object)
  · have listed := stores.routeLocks_eq object
    refine ⟨listed, ?_⟩
    rw [← listed]
    rfl
  · have unstored : (insertAll {} further).clauses.get? (object, kind) = none := by
      rw [stores, if_pos absent]
    rw [clause?, clausesOf, unstored]
    exact ⟨rfl, rfl⟩

/-- Two conjunctions for the direct lock of one object, with an alternative of its route lock between
them. -/
def mixedInsertions : List (ObjectId × LockKind × Clause) :=
  [(10, .directLock, .all [.leaf { target := 20 }]),
    (10, .routeLock, .any [.leaf { target := 30 }]),
    (10, .directLock, .all [.leaf { target := 21 }, .not (.leaf { target := 22 })])]

/-- The first conjunction is opened up and the second one stays a part, and still the direct lock says
what the two say together. -/
theorem mixed_insertions_are_kept :
    ∃ tree, (insertAll {} mixedInsertions).clause? 10 .directLock = some tree ∧
      tree = .all [.leaf { target := 20 },
        .all [.leaf { target := 21 }, .not (.leaf { target := 22 })]] ∧
      tree.Joins (insertedFor mixedInsertions (10, .directLock)) ∧
      (insertAll {} mixedInsertions).routeLocks 10 = [.any [.leaf { target := 30 }]] ∧
      (insertAll {} mixedInsertions).clauses.get? (20, .detector) = none ∧
      (insertAll {} mixedInsertions).isEmpty = false := by
  rcases inserted_conditions_are_kept mixedInsertions with
    ⟨merged, _, alternatives, absent, _, emptied, counted⟩
  rcases merged 10 .directLock (by decide) (by decide) with ⟨tree, _, found, joins⟩
  refine ⟨tree, found, ?_, joins, (alternatives 10).1, (absent 20 .detector (by decide)).1, ?_⟩
  · exact Option.some.inj (found.symm.trans (by decide))
  · rw [Bool.eq_false_iff, ne_eq, emptied, counted]
    decide

end LockTable

end SignalBox
