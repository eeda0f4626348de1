import SignalBox.Proofs.Grammar
import SignalBox.Proofs.Rendering

namespace SignalBox

/-!
# The parts of parsed cells

The shape of a parsed cell is said by induction on its conditions.  Here it is said of every
condition that stands anywhere inside of it, each time with its own parts only: `Fits` looks at
one condition and at what stands directly in it, and `Condition.Inside` reaches all of them.

Negations are what the two have to be read together for.  No condition of a cell is a negation
itself, and none of the conditions that fit has one among its parts, except that a disjunction
may end with one, which then negates no negation.  So a negation stands nowhere else.  The text
of a cell can be written for that reason, and since every plant is reached from the home plant.
-/

namespace Condition

variable {α : Type}

/-- The first condition stands in the second one, or is all of it. -/
inductive Inside : Condition α → Condition α → Prop
  | whole (tree : Condition α) : Inside tree tree
  | all {part between : Condition α} {parts : List (Condition α)} (member : between ∈ parts)
    (deeper : Inside part between) : Inside part (.all parts)
  | any {part between : Condition α} {parts : List (Condition α)} (member : between ∈ parts)
    (deeper : Inside part between) : Inside part (.any parts)
  | not {part negated : Condition α} (deeper : Inside part negated) : Inside part (.not negated)

/-- The condition is a negation. -/
def isNot : Condition α → Bool
  | not _ => true
  | _ => false

end Condition

namespace Notation

open Printer

/-- What a condition of a parsed cell is, as far as its own parts say. -/
inductive Fits (site : Site) : Tree → Prop
  /-- A name stands for an object of the home plant or of one of its neighbours, which in a
  route-lock column is not reversed. -/
  | leaf {value : Reference}
    (placed : value.plant = site.home ∨ value.plant ∈ site.adjacency.neighboursOf site.home)
    (straight : site.column = .routeLock → value.reversed = false) : Fits site (.leaf value)
  /-- A conjunction has parts, and outside of route-lock columns several ones that are no
  conjunctions. -/
  | all {parts : List Tree} (nonempty : parts ≠ []) (positive : ∀ part ∈ parts, part.isNot = false)
    (flat : site.column ≠ .routeLock → 2 ≤ parts.length ∧ ∀ part ∈ parts, part.isAll = false) :
    Fits site (.all parts)
  /-- A disjunction has several parts.  Only the last one may be a negation, and it is no
  disjunction. -/
  | any {parts : List Tree} (several : 2 ≤ parts.length)
    (positive : ∀ part ∈ parts.dropLast, part.isNot = false)
    (closed : ∀ last ∈ parts.getLast?, last.isAny = false) : Fits site (.any parts)
  /-- What is negated is no negation. -/
  | not {part : Tree} (positive : part.isNot = false) : Fits site (.not part)

variable {site : Site} {tree part last : Tree} {front : List Tree}

theorem Shaped.isNot (shaped : Shaped site tree) : tree.isNot = false := by
  cases shaped <;> rfl

/-- A disjunction with parts in front of the last one, where these are in shape. -/
theorem fits_any (nonempty : front ≠ []) (shaped : ∀ part ∈ front, Shaped site part)
    (closed : last.isAny = false) : Fits site (.any (front ++ [last])) := by
  refine .any ?_ ?_ ?_
  · have some := List.length_pos_iff.2 nonempty
    rw [List.length_append, List.length_singleton]
    omega
  · rw [List.dropLast_concat]
    exact fun part member => (shaped part member).isNot
  · rw [List.getLast?_concat]
    intro other same
    cases same
    exact closed

theorem Shaped.fits (shaped : Shaped site tree) : Fits site tree := by
  cases shaped with
  | leaf within =>
    exact .leaf within.placed fun routeLock => within.straight (hasAlternatives_iff.2 routeLock)
  | all nonempty shaped flat =>
    refine .all nonempty (fun part member => (shaped part member).isNot) ?_
    exact fun other => flat (hasAlternatives_eq_false_iff.2 other)
  | any nonempty shaped ending closed => exact fits_any nonempty shaped closed
  | exception nonempty shaped ending => exact fits_any nonempty shaped rfl

/-- Every condition inside of one that is in shape fits. -/
theorem Shaped.fits_inside (shaped : Shaped site tree) (inside : part.Inside tree) :
    Fits site part := by
  induction shaped with
  | leaf within =>
    cases inside
    exact (Shaped.leaf within).fits
  | all nonempty shaped flat inductionHypothesis =>
    cases inside with
    | whole => exact (Shaped.all nonempty shaped flat).fits
    | all member deeper => exact inductionHypothesis _ member deeper
  | any nonempty shaped ending closed parts behind =>
    cases inside with
    | whole => exact (Shaped.any nonempty shaped ending closed).fits
    | any member deeper =>
      rcases List.mem_append.1 member with before | same
      · exact parts _ before deeper
      · rw [List.mem_singleton.1 same] at deeper
        exact behind deeper
  | exception nonempty shaped ending parts behind =>
    cases inside with
    | whole => exact (Shaped.exception nonempty shaped ending).fits
    | any member deeper =>
      rcases List.mem_append.1 member with before | same
      · exact parts _ before deeper
      · -- The negation is no condition in shape of its own, but what it negates is.
        rw [List.mem_singleton.1 same] at deeper
        cases deeper with
        | whole => exact .not ending.isNot
        | not deeper => exact behind deeper

theorem Cell.IsShaped.shaped {cell : Cell} (whole : cell.IsShaped site)
    (member : tree ∈ cell.trees) : Shaped site tree := by
  cases cell with
  | clause clause =>
    rw [List.mem_singleton.1 member]
    exact whole.2
  | alternatives trees => exact whole.2.2 tree member

/-- No condition of a parsed cell is a negation, everything inside of its conditions fits, and
the cell can be written. -/
theorem parsed_cells_fit_and_are_written {site : Site} {text : String} {cell : Cell}
    (parsed : parse site text = .ok (some cell)) :
    (∀ tree ∈ cell.trees, tree.isNot = false ∧
      ∀ part : Tree, part.Inside tree → Fits site part) ∧
    ∃ written, render site.adjacency site.home cell = .ok written := by
  have whole := shaped_of_parse parsed
  constructor
  · intro tree member
    have shaped := whole.shaped member
    exact ⟨shaped.isNot, fun part inside => shaped.fits_inside inside⟩
  · rcases tokenize_render whole with ⟨written, rendered, _⟩
    exact ⟨written, rendered⟩

/-- A reversed name between alternatives, or in a route-lock column a conjunction of it alone,
and an exception for a conjunction that begins with another exception. -/
def nestedText : String :=
  "1T 又は (2R) 但 \x7b[3T] 但 4T\x7d ｢5L｣但30秒"

theorem nested_text_fits_and_is_written :
    (∃ cell, parse ⟨.line, "TH71", .directLock⟩ nestedText = .ok (some cell) ∧
      (∀ tree ∈ cell.trees, tree.isNot = false ∧
        ∀ part : Tree, part.Inside tree → Fits ⟨.line, "TH71", .directLock⟩ part) ∧
      ∃ written, render .line "TH71" cell = .ok written) ∧
    ∃ cell, parse ⟨.line, "TH71", .routeLock⟩ nestedText = .ok (some cell) ∧
      (∀ tree ∈ cell.trees, tree.isNot = false ∧
        ∀ part : Tree, part.Inside tree → Fits ⟨.line, "TH71", .routeLock⟩ part) ∧
      ∃ written, render .line "TH71" cell = .ok written := by
  have passed : ∀ column ∈ [LockColumn.directLock, .routeLock], ∃ cell,
      parse ⟨.line, "TH71", column⟩ nestedText = .ok (some cell) := by
    intro column listed
    have some : (parse ⟨.line, "TH71", column⟩ nestedText).toOption.any Option.isSome = true := by
      revert column
      decide +kernel
    rcases Fallible.exists_of_any some with ⟨found, parsed, nonempty⟩
    rcases Option.isSome_iff_exists.1 nonempty with ⟨cell, rfl⟩
    exact ⟨cell, parsed⟩
  rcases passed .directLock (by decide) with ⟨direct, parsed⟩
  rcases passed .routeLock (by decide) with ⟨numbered, alternatives⟩
  exact ⟨⟨direct, parsed, parsed_cells_fit_and_are_written parsed⟩,
    numbered, alternatives, parsed_cells_fit_and_are_written alternatives⟩

end Notation
end SignalBox
