import Mathlib.Data.List.Infix
import SignalBox.Proofs.Grammar
import SignalBox.Proofs.RoundTrip

namespace SignalBox
namespace Notation

/-!
# Canonical conditions

A condition that was never read from a cell can be written and read as well, and comes back
as it is if it is in the form that reading gives.  `Canonical` is this form, without a reader:
conjunctions and disjunctions have at least two parts, no conjunction stands directly in a
conjunction and no disjunction at the end of a disjunction, and an exception is the end of a
disjunction.  Nothing is asked about how deep and in which order these are nested.

The names have to be plain.  A name that holds the or sign would be cut there, and one that
begins as a timer does could lose its beginning to an exception sign.  Whether a neighbour is
listed twice does not matter, since every plant in the list is reached through some number of
brackets.
-/

/-- A name that no sign of a cell cuts, whatever stands in front of it. -/
structure IsPlain (text : List Char) : Prop where
  nonempty : text ≠ []
  named : ∀ letter ∈ text, isNameChar letter = true
  uncut : ¬ orChars <:+: text
  untimed : beginsTimed text = false

theorem isPlain_iff {text : List Char} :
    IsPlain text ↔
      text ≠ [] ∧ text.all isNameChar = true ∧ ¬ orChars <:+: text ∧ beginsTimed text = false := by
  rw [List.all_eq_true]
  constructor
  · rintro ⟨nonempty, named, uncut, untimed⟩
    exact ⟨nonempty, named, uncut, untimed⟩
  · rintro ⟨nonempty, named, uncut, untimed⟩
    exact ⟨nonempty, named, uncut, untimed⟩

instance (text : List Char) : Decidable (IsPlain text) :=
  decidable_of_iff _ isPlain_iff.symm

/-- The conditions in the form in which conditions are read. -/
inductive Canonical (site : Site) : Tree → Prop
  | leaf {value : Reference} (plain : IsPlain value.token.toList)
    (placed : value.plant = site.home ∨ value.plant ∈ site.adjacency.neighboursOf site.home) :
    Canonical site (.leaf value)
  | all {parts : List Tree} (several : 2 ≤ parts.length)
    (each : ∀ part ∈ parts, Canonical site part) (flat : ∀ part ∈ parts, part.isAll = false) :
    Canonical site (.all parts)
  | any {front : List Tree} {last : Tree} (nonempty : front ≠ [])
    (each : ∀ part ∈ front, Canonical site part) (ending : Canonical site last)
    (closed : last.isAny = false) :
    Canonical site (.any (front ++ [last]))
  | exception {front : List Tree} {last : Tree} (nonempty : front ≠ [])
    (each : ∀ part ∈ front, Canonical site part) (ending : Canonical site last) :
    Canonical site (.any (front ++ [.not last]))

/-- A numbered alternative may also be a conjunction of a single part. -/
inductive CanonicalAlternative (site : Site) : Tree → Prop
  | tree {tree : Tree} (canonical : Canonical site tree) : CanonicalAlternative site tree
  | single {part : Tree} (canonical : Canonical site part) (flat : part.isAll = false) :
    CanonicalAlternative site (.all [part])

/-- No name of the condition is reversed. -/
def IsStraight (tree : Tree) : Prop :=
  ∀ value ∈ tree.leaves, value.reversed = false

/-- The text of a cell is read as the cell. -/
def Cell.IsReadBack (site : Site) (cell : Cell) : Prop :=
  ∃ written, render site.adjacency site.home cell = .ok written ∧
    parse site written = .ok (some cell)

variable {site : Site} {text : List Char} {tree : Tree} {cell : Cell}

/-! ## Plain names -/

theorem IsPlain.isName (plain : IsPlain text) : IsName text :=
  ⟨plain.nonempty, splitName_eq_self_iff.2 ⟨plain.named, plain.uncut⟩⟩

/-- An exception sign takes nothing from a plain name. -/
theorem IsPlain.readTimer_eq_none (plain : IsPlain text) : readTimer text = none := by
  refine Notation.readTimer_eq_none (fun head first => ?_) plain.untimed
  exact isSkipped_of_isNameChar (plain.named head (List.mem_of_mem_head? first))

/-! ## Canonical conditions are those of cells -/

/-- A canonical condition has the shape of the conditions in cells. -/
theorem Canonical.shaped (canonical : Canonical site tree)
    (straight : ∀ value ∈ tree.leaves,
      site.column.hasAlternatives = true → value.reversed = false) :
    Shaped site tree := by
  induction canonical with
  | leaf plain placed =>
    exact .leaf ⟨plain.isName, placed, straight _ List.mem_cons_self⟩
  | @all parts several each flat inductionHypothesis =>
    refine .all ?_ (fun part member => ?_) fun _ => ⟨several, flat⟩
    · rintro rfl
      exact Nat.not_succ_le_zero 1 several
    · exact inductionHypothesis part member (Condition.forall_mem_leavesOf.1 straight part member)
  | any nonempty each ending closed parts last =>
    have parted := List.forall_mem_append.1 (Condition.forall_mem_leavesOf.1 straight)
    refine .any nonempty (fun part member => parts part member (parted.1 part member)) ?_ closed
    exact last (List.forall_mem_singleton.1 parted.2)
  | exception nonempty each ending parts last =>
    have parted := List.forall_mem_append.1 (Condition.forall_mem_leavesOf.1 straight)
    refine .exception nonempty (fun part member => parts part member (parted.1 part member)) ?_
    exact last (List.forall_mem_singleton.1 parted.2)

theorem Canonical.isGrouped (canonical : Canonical site tree) : isGrouped tree = true := by
  induction canonical with
  | leaf plain placed => rfl
  | all several each flat inductionHypothesis =>
    rw [Notation.isGrouped, Bool.and_eq_true, decide_eq_true_eq, areItems_iff]
    exact ⟨several, fun part member => ⟨flat part member, inductionHypothesis part member⟩⟩
  | any nonempty each ending closed parts last =>
    exact areGrouped_iff.2 (List.forall_mem_append.2 ⟨parts, List.forall_mem_singleton.2 last⟩)
  | exception nonempty each ending parts last =>
    exact areGrouped_iff.2 (List.forall_mem_append.2 ⟨parts, List.forall_mem_singleton.2 last⟩)

/-- An exception sign in front of a canonical condition takes nothing from it. -/
theorem Canonical.swallowed?_eq_none (canonical : Canonical site tree) :
    Printer.swallowed? site.home tree = none := by
  cases canonical with
  | leaf plain placed =>
    rw [Printer.swallowed?, plain.readTimer_eq_none, ite_self]
  | all several each flat => rfl
  | any nonempty each ending closed => rfl
  | exception nonempty each ending => rfl

/-- What a canonical condition makes exceptions for is canonical. -/
theorem Canonical.excepted (canonical : Canonical site tree) :
    ∀ part ∈ tree.excepted, Canonical site part := by
  induction canonical with
  | leaf plain placed => exact List.forall_mem_nil _
  | all several each flat inductionHypothesis =>
    exact Condition.forall_mem_exceptedOf.2 inductionHypothesis
  | any nonempty each ending closed parts last =>
    refine Condition.forall_mem_exceptedOf.2 (List.forall_mem_append.2 ⟨parts, ?_⟩)
    exact List.forall_mem_singleton.2 last
  | exception nonempty each ending parts last =>
    refine Condition.forall_mem_exceptedOf.2 (List.forall_mem_append.2 ⟨parts, ?_⟩)
    exact List.forall_mem_singleton.2 (List.forall_mem_cons.2 ⟨ending, last⟩)

/-- Outside the route-lock column only a name can keep a condition of a cell from being
canonical. -/
theorem canonical_of_shaped (plain : site.column.hasAlternatives = false)
    (shaped : Shaped site tree)
    (untimed : ∀ value ∈ tree.leaves, beginsTimed value.token.toList = false) :
    Canonical site tree := by
  induction shaped with
  | leaf within =>
    rcases splitName_eq_self_iff.1 within.named.whole with ⟨named, uncut⟩
    refine .leaf ⟨within.named.nonempty, named, uncut, ?_⟩ within.placed
    exact untimed _ List.mem_cons_self
  | @all parts nonempty shaped flat inductionHypothesis =>
    rcases flat plain with ⟨several, items⟩
    refine .all several (fun part member => ?_) items
    exact inductionHypothesis part member (Condition.forall_mem_leavesOf.1 untimed part member)
  | any nonempty shaped ending closed parts last =>
    have parted := List.forall_mem_append.1 (Condition.forall_mem_leavesOf.1 untimed)
    refine .any nonempty (fun part member => parts part member (parted.1 part member)) ?_ closed
    exact last (List.forall_mem_singleton.1 parted.2)
  | exception nonempty shaped ending parts last =>
    have parted := List.forall_mem_append.1 (Condition.forall_mem_leavesOf.1 untimed)
    refine .exception nonempty (fun part member => parts part member (parted.1 part member)) ?_
    exact last (List.forall_mem_singleton.1 parted.2)

theorem CanonicalAlternative.shaped (numbers : site.column.hasAlternatives = true)
    (canonical : CanonicalAlternative site tree) (straight : IsStraight tree) :
    Shaped site tree := by
  cases canonical with
  | tree canonical => exact canonical.shaped fun value listed _ => straight value listed
  | @single part canonical flat =>
    have shaped : Shaped site part := by
      refine canonical.shaped fun value listed _ => straight value ?_
      exact List.mem_append_left _ listed
    refine .all (List.cons_ne_nil _ _) (List.forall_mem_singleton.2 shaped) fun plain => ?_
    rw [numbers] at plain
    cases plain

theorem isGroupedAlternative_of_isGrouped (grouped : isGrouped tree = true) :
    isGroupedAlternative tree = true := by
  cases tree with
  | all parts => exact (Bool.and_eq_true_iff.1 grouped).2
  | leaf value => exact grouped
  | any parts => exact grouped
  | not part => exact grouped

theorem CanonicalAlternative.isGrouped (canonical : CanonicalAlternative site tree) :
    isGroupedAlternative tree = true := by
  cases canonical with
  | tree canonical => exact isGroupedAlternative_of_isGrouped canonical.isGrouped
  | single canonical flat =>
    exact areItems_iff.2 (List.forall_mem_singleton.2 ⟨flat, canonical.isGrouped⟩)

theorem CanonicalAlternative.excepted (canonical : CanonicalAlternative site tree) :
    ∀ part ∈ tree.excepted, Canonical site part := by
  cases canonical with
  | tree canonical => exact canonical.excepted
  | single canonical flat =>
    exact Condition.forall_mem_exceptedOf.2 (List.forall_mem_singleton.2 canonical.excepted)

/-- Outside the route-lock column a cell is read as a canonical condition, unless one of its
names begins as a timer does. -/
theorem canonical_of_parse (other : site.column ≠ .routeLock) {written : String}
    (parsed : parse site written = .ok (some (.clause tree)))
    (untimed : ∀ value ∈ tree.leaves, beginsTimed value.token.toList = false) :
    Canonical site tree :=
  canonical_of_shaped (hasAlternatives_eq_false_iff.2 other) (shaped_of_parse parsed).2 untimed

/-! ## Reading back -/

/-- A legible cell of the shape of its site is read back, whether it was read before or not. -/
theorem isReadBack_of_isLegible (shaped : cell.IsShaped site) (legible : cell.IsLegible site.home) :
    cell.IsReadBack site := by
  rcases Printer.tokenize_render shaped with ⟨written, rendered, tokenized⟩
  refine ⟨written, rendered, ?_⟩
  calc parse site written
      = parseTokens site (Printer.cellTokens site.adjacency site.home cell) :=
        Fallible.bind_of_eq_ok tokenized _
    _ = .ok (some (site.cell cell.levelItems)) := parseTokens_of_clear shaped legible.1
    _ = .ok (some cell) := by rw [(cell_levelItems_iff shaped).2 legible.2]

/-- Exceptions that are made for canonical conditions only are clear. -/
theorem isClear_of_canonical
    (excepted : ∀ tree ∈ cell.trees, ∀ part ∈ tree.excepted, Canonical site part) :
    cell.IsClear site.home := by
  refine Condition.forall_mem_exceptedOf.2 fun tree member part inside => ?_
  exact (excepted tree member part inside).swallowed?_eq_none

/-- At every site, with every list of neighbours, a canonical condition is written as a
clause and read back, and in a route-lock column so are canonical alternatives without
reversed names. -/
theorem canonical_cells_are_read_back (site : Site) :
    (site.column ≠ .routeLock → ∀ tree, Canonical site tree →
      (Cell.clause tree).IsReadBack site) ∧
    (site.column = .routeLock → ∀ trees, trees ≠ [] →
      (∀ tree ∈ trees, CanonicalAlternative site tree ∧ IsStraight tree) →
      (Cell.alternatives trees).IsReadBack site) := by
  constructor
  · intro other tree canonical
    have plain := hasAlternatives_eq_false_iff.2 other
    have shaped : Shaped site tree := by
      refine canonical.shaped fun value listed numbered => ?_
      rw [plain] at numbered
      cases numbered
    refine isReadBack_of_isLegible ⟨plain, shaped⟩ ⟨?_, canonical.isGrouped⟩
    exact isClear_of_canonical (List.forall_mem_singleton.2 canonical.excepted)
  · intro routeLock trees nonempty canonical
    have numbers := hasAlternatives_iff.2 routeLock
    refine isReadBack_of_isLegible ⟨numbers, nonempty, fun tree member => ?_⟩ ⟨?_, ?_⟩
    · exact (canonical tree member).1.shaped numbers (canonical tree member).2
    · exact isClear_of_canonical fun tree member => (canonical tree member).1.excepted
    · exact fun tree member => (canonical tree member).1.isGrouped

/-- A site with a neighbour that is listed twice, and with its own plant in the list. -/
def Site.doubled (column : LockColumn) : Site where
  adjacency := Adjacency.withPlant {} "H" ["N", "N", "H", "M"]
  home := "H"
  column := column

/-- A name of another neighbour, subject to unlocking and with a timer. -/
def furtherName : Reference where
  token := "3は"
  plant := "M"
  subjectToUnlock := true
  timer := some 40

/-- A name of digits, which a seconds sign behind it would make a timer. -/
def numberName : Reference where
  token := "12"
  plant := "H"
  timer := some 30

/-- A reversed name of the neighbour that is listed twice. -/
def reversedName : Reference where
  token := "2"
  plant := "N"
  reversed := true
  subjectToUnlock := true

/-- An exception for a conjunction, with disjunctions and another exception before it. -/
def nestedTree : Tree :=
  .any [
    .all [.leaf furtherName, .any [.leaf numberName, .leaf reversedName]],
    .any [.leaf furtherName, .not (.leaf numberName)],
    .not (.all [.leaf numberName, .leaf furtherName])]

/-- A cell that says the same in fewer brackets than it is written in. -/
def nestedTreeText : String :=
  "[[[[｢3は｣]]]]但40秒 \x7b12但30秒 又は [｢(2)｣]\x7d 又は " ++
    "\x7b[[[[｢3は｣]]]]但40秒 但 12但30秒\x7d 但 \x7b12但30秒 [[[[｢3は｣]]]]但40秒\x7d"

/-- Numbered alternatives, of which the first is a single name. -/
def numberedTrees : List Tree :=
  [.all [.leaf numberName], .any [.leaf furtherName, .not (.leaf numberName)],
    .all [.leaf furtherName, .leaf numberName]]

/-- Names with every kind of bracket are read back in all places of a condition, and so is a
name of digits behind an exception sign. -/
theorem nested_conditions_are_read_back :
    (Cell.clause nestedTree).IsReadBack (.doubled .directLock) ∧
      (Cell.alternatives numberedTrees).IsReadBack (.doubled .routeLock) := by
  constructor
  · have read : parse (.doubled .directLock) nestedTreeText = .ok (some (.clause nestedTree)) := by
      decide +kernel
    have canonical : Canonical (.doubled .directLock) nestedTree :=
      canonical_of_parse (by decide) read (by decide +kernel)
    exact (canonical_cells_are_read_back (.doubled .directLock)).1 (by decide) nestedTree canonical
  · refine (canonical_cells_are_read_back (.doubled .routeLock)).2 rfl numberedTrees
      (List.cons_ne_nil _ _) ?_
    have plain : ∀ value ∈ [furtherName, numberName],
        IsPlain value.token.toList ∧
          (value.plant = "H" ∨ value.plant ∈ ["N", "N", "H", "M"]) := by decide +kernel
    have name : ∀ value ∈ [furtherName, numberName],
        Canonical (.doubled .routeLock) (.leaf value) := fun value listed =>
      .leaf (plain value listed).1 (plain value listed).2
    have further := name furtherName (by decide)
    have number := name numberName (by decide)
    have exception : Canonical (.doubled .routeLock)
        (.any ([.leaf furtherName] ++ [.not (.leaf numberName)])) :=
      .exception (List.cons_ne_nil _ _) (List.forall_mem_singleton.2 further) number
    have both : Canonical (.doubled .routeLock) (.all [.leaf furtherName, .leaf numberName]) :=
      .all (Nat.le_refl 2) (List.forall_mem_cons.2 ⟨further, List.forall_mem_singleton.2 number⟩)
        (by decide)
    have straight : ∀ tree ∈ numberedTrees, ∀ value ∈ tree.leaves, value.reversed = false := by
      decide
    intro tree listed
    refine ⟨?_, straight tree listed⟩
    simp only [numberedTrees, List.mem_cons, List.not_mem_nil, or_false] at listed
    rcases listed with rfl | rfl | rfl
    · exact .single number rfl
    · exact .tree exception
    · exact .tree both

/-- The least number of brackets leads to a neighbour that is listed twice. -/
example : (render (Site.doubled .directLock).adjacency "H" (.clause
    (.any [.leaf numberName, .not (.all [.leaf reversedName, .leaf furtherName])]))).toOption =
      some "\x7b12但30秒 但 \x7b[｢(2)｣] [[[[｢3は｣]]]]但40秒\x7d\x7d" := by
  decide +kernel

end Notation
end SignalBox
