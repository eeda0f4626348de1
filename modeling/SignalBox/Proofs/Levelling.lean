import SignalBox.Proofs.Shape
import SignalBox.Proofs.Survey

namespace SignalBox
namespace Notation

/-!
# Levelled conditions

Curly brackets pass on the items inside, so a conjunction that is written in them does not
come back as such: its parts become items of the sequence around it, and only an operand
that then has several items is a conjunction again.  `level` is the condition that comes
back.  It has no conjunction inside a conjunction and none of a single part.

`isGrouped` says this of a condition, and a condition of the shape of a cell is grouped
exactly if it comes back unchanged.  Outside the route-lock column every one of them is.
-/

/-- The parts of a condition as items of a sequence: those of a conjunction stand for
themselves. -/
def constituents : Tree → List Tree
  | .all parts => parts
  | tree => [tree]

/-- The parts that a condition adds to an alternative on its left. -/
def continuation : Tree → List Tree
  | .any parts => parts
  | tree => [tree]

theorem alternative_eq (left right : Tree) :
    alternative left right = .any (left :: continuation right) := by
  cases right <;> rfl

mutual

/-- The items that come back for a condition. -/
def levelItems : Tree → List Tree
  | .leaf value => [.leaf value]
  | .all parts => levelItemsOf parts
  | .any parts => [levelJoined parts]
  | .not part => [.not (.conjunction (levelItems part))]

/-- The items that come back for several conditions. -/
def levelItemsOf : List Tree → List Tree
  | [] => []
  | part :: rest => levelItems part ++ levelItemsOf rest

/-- The disjunction that comes back for its parts, which are joined from the right. -/
def levelJoined : List Tree → Tree
  | [] => .any []
  | [part] => .conjunction (levelItems part)
  | part :: rest => alternative (.conjunction (levelItems part)) (levelJoined rest)

end

/-- The condition that comes back for one that is written in brackets. -/
def level (tree : Tree) : Tree :=
  .conjunction (levelItems tree)

mutual

/-- Every conjunction inside has at least two parts, and none of them is one itself. -/
def isGrouped : Tree → Bool
  | .leaf _ => true
  | .all parts => decide (2 ≤ parts.length) && areItems parts
  | .any parts => areGrouped parts
  | .not part => isGrouped part

/-- The conditions are grouped, and none of them is a conjunction. -/
def areItems : List Tree → Bool
  | [] => true
  | part :: rest => !part.isAll && isGrouped part && areItems rest

/-- The conditions are grouped. -/
def areGrouped : List Tree → Bool
  | [] => true
  | part :: rest => isGrouped part && areGrouped rest

end

variable {site : Site} {tree : Tree} {parts : List Tree}

theorem areItems_iff :
    areItems parts = true ↔ ∀ part ∈ parts, part.isAll = false ∧ isGrouped part = true := by
  induction parts with
  | nil => simp [areItems]
  | cons part rest inductionHypothesis =>
    simp only [areItems, Bool.and_eq_true, Bool.not_eq_true', inductionHypothesis,
      List.forall_mem_cons]

theorem areGrouped_iff : areGrouped parts = true ↔ ∀ part ∈ parts, isGrouped part = true := by
  induction parts with
  | nil => simp [areGrouped]
  | cons part rest inductionHypothesis =>
    simp only [areGrouped, Bool.and_eq_true, inductionHypothesis, List.forall_mem_cons]

theorem levelItemsOf_eq (parts : List Tree) : levelItemsOf parts = parts.flatMap levelItems := by
  induction parts with
  | nil => rfl
  | cons part rest inductionHypothesis =>
    rw [levelItemsOf, inductionHypothesis, List.flatMap_cons]

theorem levelJoined_cons {part : Tree} {rest : List Tree} (others : rest ≠ []) :
    levelJoined (part :: rest) = .any (level part :: continuation (levelJoined rest)) := by
  cases rest with
  | nil => contradiction
  | cons next more =>
    rw [levelJoined, alternative_eq]
    · rfl
    · exact List.cons_ne_nil _ _

/-- Joined from the right, the parts of a disjunction come back one by one, and the last
one adds its own parts if it comes back as a disjunction. -/
theorem levelJoined_append {front : List Tree} (nonempty : front ≠ []) (last : Tree) :
    levelJoined (front ++ [last]) = .any (front.map level ++ continuation (level last)) := by
  induction front with
  | nil => contradiction
  | cons first rest inductionHypothesis =>
    have behind : rest ++ [last] ≠ [] := List.append_ne_nil_of_right_ne_nil _ (List.cons_ne_nil _ _)
    rw [List.cons_append, levelJoined_cons behind]
    cases rest with
    | nil => rfl
    | cons second more =>
      -- What is joined behind the first part is a disjunction already, and is continued.
      rw [inductionHypothesis (List.cons_ne_nil _ _)]
      rfl

/-! ## What comes back is grouped -/

theorem isGrouped_conjunction {items : List Tree} (nonempty : items ≠ [])
    (grouped : areItems items = true) : isGrouped (.conjunction items) = true := by
  match items with
  | [] => contradiction
  | [item] => exact ((areItems_iff.1 grouped) item List.mem_cons_self).2
  | first :: second :: rest =>
    rw [Condition.conjunction, isGrouped, grouped]
    · simp
    · simp

theorem isGrouped_continuation (grouped : isGrouped tree = true) :
    ∀ part ∈ continuation tree, isGrouped part = true := by
  cases tree with
  | any parts => exact areGrouped_iff.1 grouped
  | leaf value => exact List.forall_mem_singleton.2 grouped
  | all parts => exact List.forall_mem_singleton.2 grouped
  | not part => exact List.forall_mem_singleton.2 grouped

theorem areItems_levelJoined {front : List Tree} {last : Tree} (nonempty : front ≠ [])
    (each : ∀ part ∈ front, isGrouped (level part) = true) (ending : isGrouped (level last) = true) :
    areItems [levelJoined (front ++ [last])] = true := by
  rw [levelJoined_append nonempty, areItems_iff, List.forall_mem_singleton]
  refine ⟨rfl, areGrouped_iff.2 fun part member => ?_⟩
  rcases List.mem_append.1 member with before | behind
  · rcases List.mem_map.1 before with ⟨source, listed, rfl⟩
    exact each source listed
  · exact isGrouped_continuation ending part behind

/-- The items that come back for a condition of a cell are grouped, and there is one. -/
theorem levelItems_of_shaped (shaped : Shaped site tree) :
    levelItems tree ≠ [] ∧ areItems (levelItems tree) = true := by
  have level_grouped : ∀ part : Tree, levelItems part ≠ [] ∧ areItems (levelItems part) = true →
      isGrouped (level part) = true := by
    rintro part ⟨some, items⟩
    exact isGrouped_conjunction some items
  induction shaped with
  | leaf within => exact ⟨List.cons_ne_nil _ _, rfl⟩
  | @all parts nonempty shaped flat inductionHypothesis =>
    rw [levelItems, levelItemsOf_eq]
    constructor
    · cases parts with
      | nil => contradiction
      | cons part rest =>
        rw [List.flatMap_cons]
        exact List.append_ne_nil_of_left_ne_nil (inductionHypothesis part List.mem_cons_self).1 _
    · rw [areItems_iff]
      intro item member
      rcases List.mem_flatMap.1 member with ⟨part, listed, inside⟩
      exact areItems_iff.1 (inductionHypothesis part listed).2 item inside
  | any nonempty shaped ending closed each last =>
    refine ⟨List.cons_ne_nil _ _, ?_⟩
    exact areItems_levelJoined nonempty (fun part member => level_grouped part (each part member))
      (level_grouped _ last)
  | @exception front last nonempty shaped ending each inside =>
    refine ⟨List.cons_ne_nil _ _, ?_⟩
    exact areItems_levelJoined nonempty (fun part member => level_grouped part (each part member))
      (level_grouped last inside)

theorem isGrouped_level (shaped : Shaped site tree) : isGrouped (level tree) = true :=
  isGrouped_conjunction (levelItems_of_shaped shaped).1 (levelItems_of_shaped shaped).2

/-! ## What is grouped comes back -/

theorem conjunction_constituents (grouped : isGrouped tree = true) :
    .conjunction (constituents tree) = tree := by
  cases tree with
  | leaf value => rfl
  | any parts => rfl
  | not part => rfl
  | all parts =>
    simp only [isGrouped, Bool.and_eq_true, decide_eq_true_eq] at grouped
    match parts with
    | [] => exact absurd grouped.1 (by simp)
    | [part] => exact absurd grouped.1 (by simp)
    | first :: second :: rest => rfl

theorem constituents_of_not_all (plain : tree.isAll = false) : constituents tree = [tree] := by
  cases tree with
  | all parts => cases plain
  | leaf value => rfl
  | any parts => rfl
  | not part => rfl

theorem continuation_of_not_any (closed : tree.isAny = false) : continuation tree = [tree] := by
  cases tree with
  | any parts => cases closed
  | leaf value => rfl
  | all parts => rfl
  | not part => rfl

theorem levelItemsOf_of_areItems (items : areItems parts = true)
    (each : ∀ part ∈ parts, isGrouped part = true → levelItems part = constituents part) :
    levelItemsOf parts = parts := by
  have alone : ∀ part ∈ parts, levelItems part = [part] := by
    intro part member
    rcases areItems_iff.1 items part member with ⟨plain, grouped⟩
    rw [each part member grouped, constituents_of_not_all plain]
  rw [levelItemsOf_eq, List.flatMap_def, List.map_congr_left alone, ← List.flatMap_def,
    List.flatMap_singleton']

theorem levelJoined_of_areGrouped {front : List Tree} {last : Tree} (nonempty : front ≠ [])
    (each : ∀ part ∈ front, level part = part) (ending : continuation (level last) = [last]) :
    levelJoined (front ++ [last]) = .any (front ++ [last]) := by
  rw [levelJoined_append nonempty, ending, List.map_congr_left each, List.map_id']

/-- The items that come back for a grouped condition of a cell are its own. -/
theorem levelItems_of_isGrouped (shaped : Shaped site tree) (grouped : isGrouped tree = true) :
    levelItems tree = constituents tree := by
  have unchanged : ∀ part : Tree, isGrouped part = true → levelItems part = constituents part →
      level part = part := by
    intro part grouped same
    rw [level, same, conjunction_constituents grouped]
  induction shaped with
  | leaf within => rfl
  | all nonempty shaped flat inductionHypothesis =>
    rw [isGrouped, Bool.and_eq_true] at grouped
    exact levelItemsOf_of_areItems grouped.2 inductionHypothesis
  | any nonempty shaped ending closed each last =>
    have parted := List.forall_mem_append.1 (areGrouped_iff.1 grouped)
    have lastGrouped := List.forall_mem_singleton.1 parted.2
    refine congrArg (fun tree => [tree]) (levelJoined_of_areGrouped nonempty ?_ ?_)
    · intro part member
      exact unchanged part (parted.1 part member) (each part member (parted.1 part member))
    · rw [unchanged _ lastGrouped (last lastGrouped), continuation_of_not_any closed]
  | @exception front last nonempty shaped ending each inside =>
    have parted := List.forall_mem_append.1 (areGrouped_iff.1 grouped)
    have lastGrouped : isGrouped last = true := parted.2 (.not last) (List.mem_singleton_self _)
    refine congrArg (fun tree => [tree]) (levelJoined_of_areGrouped nonempty ?_ ?_)
    · intro part member
      exact unchanged part (parted.1 part member) (each part member (parted.1 part member))
    · change [Condition.not (level last)] = _
      rw [unchanged last lastGrouped (inside lastGrouped)]

/-- A condition of a cell comes back unchanged exactly if it is grouped. -/
theorem level_eq_self_iff (shaped : Shaped site tree) :
    level tree = tree ↔ isGrouped tree = true := by
  constructor
  · intro same
    -- Whatever comes back is grouped, so what comes back as itself is.
    rw [← same]
    exact isGrouped_level shaped
  · intro grouped
    rw [level, levelItems_of_isGrouped shaped grouped, conjunction_constituents grouped]

/-- The parts of a conjunction come back unchanged exactly if they are items. -/
theorem levelItemsOf_eq_self_iff (shaped : ∀ part ∈ parts, Shaped site part) :
    levelItemsOf parts = parts ↔ areItems parts = true := by
  constructor
  · intro same
    rw [← same, levelItemsOf_eq, areItems_iff]
    intro item member
    rcases List.mem_flatMap.1 member with ⟨part, listed, inside⟩
    exact areItems_iff.1 (levelItems_of_shaped (shaped part listed)).2 item inside
  · intro items
    exact levelItemsOf_of_areItems items fun part member grouped =>
      levelItems_of_isGrouped (shaped part member) grouped

/-- Outside the route-lock column the conditions of cells are grouped. -/
theorem isGrouped_of_shaped (plain : site.column.hasAlternatives = false)
    (shaped : Shaped site tree) : isGrouped tree = true := by
  induction shaped with
  | leaf within => rfl
  | all nonempty shaped flat inductionHypothesis =>
    rcases flat plain with ⟨several, items⟩
    rw [isGrouped, Bool.and_eq_true, decide_eq_true_eq, areItems_iff]
    exact ⟨several, fun part member => ⟨items part member, inductionHypothesis part member⟩⟩
  | any nonempty shaped ending closed each last =>
    exact areGrouped_iff.2 (List.forall_mem_append.2 ⟨each, List.forall_mem_singleton.2 last⟩)
  | exception nonempty shaped ending each inside =>
    exact areGrouped_iff.2 (List.forall_mem_append.2 ⟨each, List.forall_mem_singleton.2 inside⟩)

end Notation
end SignalBox
