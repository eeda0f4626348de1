import Mathlib.Data.List.Basic
import SignalBox.Proofs.Survey

namespace SignalBox

/-!
# Substitution of conditions

Putting a condition in the place of every leaf keeps the connectives, so the value and the leaves
of what comes out are told by the values and the leaves of what is put in.

Expanding a condition is such a substitution where every leaf has targets: a leaf gives way to the
conjunction of its targets.  Where some leaf has none there is no expansion, and the first of
these leaves decides the fault, wherever it stands.
-/

namespace Condition

variable {α β ε : Type}

/-! ## Conditions in the place of leaves -/

mutual

/-- Put a condition in the place of every leaf. -/
def substitute (image : α → Condition β) : Condition α → Condition β
  | leaf condition => image condition
  | all parts => all (substituteIn image parts)
  | any parts => any (substituteIn image parts)
  | not part => not (substitute image part)

/-- Put a condition in the place of every leaf of several conditions. -/
def substituteIn (image : α → Condition β) : List (Condition α) → List (Condition β)
  | [] => []
  | part :: rest => substitute image part :: substituteIn image rest

end

section Substitution

variable {image : α → Condition β} {tree : Condition α}

theorem substituteIn_eq (parts : List (Condition α)) :
    substituteIn image parts = parts.map (substitute image) := by
  induction parts with
  | nil => rfl
  | cons part rest inductionHypothesis => rw [substituteIn, inductionHypothesis, List.map_cons]

theorem mem_substituteIn {part : Condition β} {parts : List (Condition α)} :
    part ∈ substituteIn image parts ↔ ∃ source ∈ parts, source.substitute image = part := by
  rw [substituteIn_eq, List.mem_map]

/-- What is put in the place of a leaf gives the leaf its value. -/
theorem holds_substitute (value : β → Bool) (tree : Condition α) :
    (tree.substitute image).holds value = tree.holds fun leaf => (image leaf).holds value := by
  induction tree using induction with
  | leaf condition => rfl
  | all parts inductionHypothesis =>
    rw [substitute, holds, holds, holdsAll_eq, holdsAll_eq, substituteIn_eq, List.all_map,
      Bool.eq_iff_iff, List.all_eq_true, List.all_eq_true]
    exact forall₂_congr fun part listed => by rw [← inductionHypothesis part listed]; rfl
  | any parts inductionHypothesis =>
    rw [substitute, holds, holds, holdsAny_eq, holdsAny_eq, substituteIn_eq, List.any_map,
      Bool.eq_iff_iff, List.any_eq_true, List.any_eq_true]
    refine exists_congr fun part => and_congr_right fun listed => ?_
    rw [← inductionHypothesis part listed]
    rfl
  | not part inductionHypothesis => rw [substitute, holds, holds, inductionHypothesis]

theorem leaves_substitute (tree : Condition α) :
    (tree.substitute image).leaves = tree.leaves.flatMap fun leaf => (image leaf).leaves := by
  have each : ∀ parts : List (Condition α),
      (∀ part ∈ parts, (part.substitute image).leaves =
        part.leaves.flatMap fun leaf => (image leaf).leaves) →
      leavesOf (substituteIn image parts) =
        (leavesOf parts).flatMap fun leaf => (image leaf).leaves := by
    intro parts known
    rw [leavesOf_eq, leavesOf_eq, substituteIn_eq, List.flatMap_map, List.flatMap_assoc]
    exact List.flatMap_congr known
  induction tree using induction with
  | leaf condition => exact (List.flatMap_singleton _ _).symm
  | all parts inductionHypothesis => exact each parts inductionHypothesis
  | any parts inductionHypothesis => exact each parts inductionHypothesis
  | not part inductionHypothesis => exact inductionHypothesis

end Substitution

/-! ## Conjunctions of leaves -/

section Conjunctions

variable {values : List α}

theorem holds_conjunction (value : α → Bool) (values : List α) :
    (conjunction (values.map leaf)).holds value = values.all value := by
  unfold conjunction
  split
  · rename_i part single
    rcases List.map_eq_singleton_iff.1 single with ⟨own, rfl, rfl⟩
    rw [List.all_cons, List.all_nil, Bool.and_true]
    rfl
  · rw [holds, holdsAll_eq, List.all_map]
    rfl

theorem leaves_conjunction_leaf (values : List α) :
    (conjunction (values.map leaf)).leaves = values := by
  rw [leaves_conjunction, leavesOf_eq, List.flatMap_map]
  exact List.flatMap_singleton' values

end Conjunctions

/-! ## Expansion -/

section Expansion

variable {targets : α → Except ε (List β)} {tree : Condition α} {fault : ε}

theorem expandAll_eq_mapM (targets : α → Except ε (List β)) (parts : List (Condition α)) :
    expandAll targets parts = parts.mapM (expand targets) := by
  induction parts with
  | nil => rfl
  | cons part rest inductionHypothesis =>
    rw [expandAll, inductionHypothesis, List.mapM_cons]
    rfl

/-- A condition cannot be expanded where one of its leaves cannot, and the leftmost such leaf
decides the fault. -/
theorem expand_eq_error :
    tree.expand targets = .error fault ↔ FailsFirst targets fault tree.leaves := by
  induction tree using induction generalizing fault with
  | leaf condition =>
    rw [expand, Fallible.map_eq_error, leaves, FailsFirst.singleton_iff]
  | all parts inductionHypothesis =>
    rw [expand, Fallible.map_eq_error, expandAll_eq_mapM, FailsFirst.mapM_eq_error, leaves,
      leavesOf_eq]
    exact FailsFirst.flatMap_iff fun part listed _ => inductionHypothesis part listed
  | any parts inductionHypothesis =>
    rw [expand, Fallible.map_eq_error, expandAll_eq_mapM, FailsFirst.mapM_eq_error, leaves,
      leavesOf_eq]
    exact FailsFirst.flatMap_iff fun part listed _ => inductionHypothesis part listed
  | not part inductionHypothesis =>
    rw [expand, Fallible.map_eq_error, leaves]
    exact inductionHypothesis

/-- A condition can be expanded exactly where each of its leaves can. -/
theorem expand_succeeds_iff :
    Succeeds (tree.expand targets) ↔ ∀ leaf ∈ tree.leaves, Succeeds (targets leaf) :=
  FailsFirst.succeeds_iff fun _ => expand_eq_error

/-- A condition whose leaves have targets expands to the substitution of their conjunctions. -/
theorem expand_eq_substitute {found : α → List β}
    (given : ∀ leaf ∈ tree.leaves, targets leaf = .ok (found leaf)) :
    tree.expand targets =
      .ok (tree.substitute fun leaf => conjunction ((found leaf).map .leaf)) := by
  induction tree using induction with
  | leaf condition =>
    rw [expand, given condition (List.mem_singleton_self condition)]
    rfl
  | all parts inductionHypothesis =>
    have expanded := Fallible.mapM_eq_ok_map fun part listed =>
      inductionHypothesis part listed fun leaf inside =>
        given leaf (mem_leavesOf.2 ⟨part, listed, inside⟩)
    rw [expand, expandAll_eq_mapM, expanded, substitute, substituteIn_eq]
    rfl
  | any parts inductionHypothesis =>
    have expanded := Fallible.mapM_eq_ok_map fun part listed =>
      inductionHypothesis part listed fun leaf inside =>
        given leaf (mem_leavesOf.2 ⟨part, listed, inside⟩)
    rw [expand, expandAll_eq_mapM, expanded, substitute, substituteIn_eq]
    rfl
  | not part inductionHypothesis =>
    rw [expand, inductionHypothesis given]
    rfl

/-- Every leaf of an expanded condition comes from a leaf of the condition. -/
theorem mem_leaves_expand {expanded : Condition β} (resolved : tree.expand targets = .ok expanded)
    {leaf : β} (member : leaf ∈ expanded.leaves) :
    ∃ source, source ∈ tree.leaves ∧ ∃ values, targets source = .ok values ∧ leaf ∈ values := by
  rcases Fallible.exists_results (expand_succeeds_iff.1 ⟨expanded, resolved⟩) with ⟨found, given⟩
  cases resolved.symm.trans (expand_eq_substitute given)
  rw [leaves_substitute] at member
  rcases List.mem_flatMap.1 member with ⟨source, listed, put⟩
  rw [leaves_conjunction_leaf] at put
  exact ⟨source, listed, found source, given source listed, put⟩

end Expansion

end Condition

end SignalBox
