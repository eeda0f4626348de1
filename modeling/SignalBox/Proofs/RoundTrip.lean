import SignalBox.Proofs.Exceptions
import SignalBox.Proofs.Levelling

namespace SignalBox

/-!
# Reading a written cell

A parsed cell can always be written at its home plant, and its text is read again.  Whether
it is read as the same cell is decided by two things that no bracket of the text keeps.

An exception that is made for a bare name is written with the sign right in front of the
name.  Where the name begins as a timer does, sign and digits are read as a timer, and the
exception is lost.  And a conjunction inside another condition is written in curly brackets,
which pass their items on; in a route-lock column parentheses make conjunctions that do not
come back from there.

`parse_render_iff` says that these are the only two.  That an exception which becomes a timer
cannot be made up for elsewhere follows from counting: reading never makes more exceptions
than there are exception signs.
-/

namespace Notation

open Printer

/-! ## When a cell comes back -/

/-- No exception sign of a text takes a timer from the name behind it. -/
def Cell.IsClear (home : String) (cell : Cell) : Prop :=
  ∀ part ∈ Condition.exceptedOf cell.trees, swallowed? home part = none

/-- A numbered alternative keeps its conjunction, which may have a single part. -/
def isGroupedAlternative : Tree → Bool
  | .all parts => areItems parts
  | tree => isGrouped tree

/-- Every conjunction of the cell stands where its brackets keep it. -/
def Cell.IsGrouped : Cell → Prop
  | clause tree => isGrouped tree = true
  | alternatives trees => ∀ tree ∈ trees, isGroupedAlternative tree = true

/-- The text of the cell says what the cell says. -/
def Cell.IsLegible (home : String) (cell : Cell) : Prop :=
  cell.IsClear home ∧ cell.IsGrouped

instance (home : String) (cell : Cell) : Decidable (cell.IsClear home) :=
  inferInstanceAs (Decidable (∀ part ∈ Condition.exceptedOf cell.trees, swallowed? home part = none))

instance : (cell : Cell) → Decidable cell.IsGrouped
  | .clause tree => inferInstanceAs (Decidable (isGrouped tree = true))
  | .alternatives trees =>
    inferInstanceAs (Decidable (∀ tree ∈ trees, isGroupedAlternative tree = true))

instance (home : String) (cell : Cell) : Decidable (cell.IsLegible home) :=
  inferInstanceAs (Decidable (cell.IsClear home ∧ cell.IsGrouped))

variable {site : Site} {value : Reference} {tree : Tree}

/-! ## Names are read as they were -/

theorem turned_contributes {plant : String} {subject : Bool}
    (within : value.Within site) :
    Contributes site ⟨plant, false, subject⟩ (turnedTokens value)
      [.leaf (Scope.reference ⟨plant, value.reversed, subject⟩ value.token)] := by
  cases reversed : value.reversed with
  | false =>
    rw [turnedTokens, reversed, if_neg Bool.false_ne_true]
    exact .name value.token
  | true =>
    have plain : site.column.hasAlternatives = false := by
      rw [← Bool.not_eq_true]
      intro numbered
      rw [within.straight numbered] at reversed
      cases reversed
    rw [turnedTokens, reversed, if_pos rfl]
    have entered : site.enter ⟨plant, false, subject⟩ .paren = .ok ⟨plant, true, subject⟩ := by
      simp [Site.enter, plain]
    refine Contributes.wrap entered (Contributes.name value.token).yields ?_
    simp [Site.leave, plain]

theorem unlocked_contributes {plant : String}
    (within : value.Within site) :
    Contributes site ⟨plant, false, false⟩ (unlockedTokens value)
      [.leaf (Scope.reference ⟨plant, value.reversed, value.subjectToUnlock⟩ value.token)] := by
  cases subject : value.subjectToUnlock with
  | false =>
    rw [unlockedTokens, subject, if_neg Bool.false_ne_true]
    exact turned_contributes within
  | true =>
    rw [unlockedTokens, subject, if_pos rfl]
    exact Contributes.wrap rfl (turned_contributes within).yields rfl

theorem placed_contributes
    (within : value.Within site) :
    Contributes site site.scope (placedTokens site.adjacency site.home value)
      [.leaf (Scope.reference ⟨value.plant, value.reversed, value.subjectToUnlock⟩
        value.token)] := by
  by_cases home : value.plant = site.home
  · rw [placedTokens, if_pos home, home]
    exact unlocked_contributes within
  · rcases Adjacency.exists_hopsTo? (within.placed.resolve_left home) with ⟨hops, found⟩
    have leads := Adjacency.neighbour?_of_hopsTo? found
    rw [placedTokens, if_neg home, found]
    refine Contributes.wrap ?_ (unlocked_contributes within).yields rfl
    rw [Site.enter, leads]
    rfl

theorem reference_contributes (within : value.Within site) :
    Contributes site site.scope (referenceTokens site.adjacency site.home value) [.leaf value] := by
  have placed := placed_contributes within
  rcases value with ⟨token, plant, reversed, subjectToUnlock, timer⟩
  cases timer with
  | none =>
    rw [referenceTokens, Option.toList_none, List.map_nil, List.append_nil]
    exact placed
  | some seconds => exact placed.timer seconds

/-! ## Conditions are read levelled -/

/-- The tokens of a condition add what comes back for it. -/
structure ComesBack (site : Site) (tree : Tree) : Prop where
  some : levelItems tree ≠ []
  contributes : Contributes site site.scope (tokens site.adjacency site.home tree)
    (levelItems tree)

theorem ComesBack.group_eq (back : ComesBack site tree) :
    group (levelItems tree) = .ok (level tree) :=
  group_eq_ok.2 ⟨back.some, rfl⟩

theorem tokensOf_contributes {parts : List Tree} (each : ∀ part ∈ parts, ComesBack site part) :
    Contributes site site.scope (tokensOf site.adjacency site.home parts) (levelItemsOf parts) := by
  rw [tokensOf_eq, levelItemsOf_eq]
  exact .flatMap fun part member => (each part member).contributes

/-- The last part of a disjunction, which comes back behind its sign. -/
inductive EndingBack (site : Site) : Tree → Prop
  | part {part : Tree} (shaped : Shaped site part) (back : ComesBack site part) :
    EndingBack site part
  | exception {part : Tree} (kept : swallowed? site.home part = none)
    (back : ComesBack site part) : EndingBack site (.not part)

/-- The parts of a disjunction are joined from the right. -/
theorem joinedTokens_yield {first last : Tree} {front : List Tree} (head : ComesBack site first)
    (each : ∀ part ∈ front, Shaped site part ∧ ComesBack site part)
    (ending : EndingBack site last) :
    Yields site site.scope (joinedTokens site.adjacency site.home (first :: (front ++ [last])))
      [levelJoined (first :: (front ++ [last]))] := by
  induction front generalizing first with
  | nil =>
    rw [List.nil_append, joinedTokens, continuedTokens, continuedTokens, List.append_nil]
    cases ending with
    | part shaped back =>
      rw [sign_of_shaped shaped]
      exact Yields.alternative head.contributes head.group_eq back.contributes.yields back.group_eq
    | exception kept back =>
      rw [sign, List.nil_append, tokens, exceptionTokens, kept]
      exact Yields.exception head.contributes head.group_eq back.contributes.yields back.group_eq
  | cons second rest inductionHypothesis =>
    rcases each second List.mem_cons_self with ⟨shaped, back⟩
    have later := inductionHypothesis back fun other member =>
      each other (List.mem_cons_of_mem _ member)
    rw [joinedTokens, List.cons_append, continuedTokens, sign_of_shaped shaped]
    exact Yields.alternative head.contributes head.group_eq later rfl

theorem comesBack_any {front : List Tree} {last : Tree} (nonempty : front ≠ [])
    (each : ∀ part ∈ front, Shaped site part ∧ ComesBack site part)
    (ending : EndingBack site last) : ComesBack site (.any (front ++ [last])) := by
  refine ⟨List.cons_ne_nil _ _, ?_⟩
  cases front with
  | nil => contradiction
  | cons first rest =>
    have inside := joinedTokens_yield (each first List.mem_cons_self).2
      (fun other member => each other (List.mem_cons_of_mem _ member)) ending
    exact Contributes.wrap rfl inside rfl

/-- Where no exception sign takes a timer, every condition comes back levelled. -/
theorem comesBack_of_clear (shaped : Shaped site tree)
    (clear : ∀ part ∈ tree.excepted, swallowed? site.home part = none) : ComesBack site tree := by
  have below : ∀ parts : List Tree,
      (∀ part ∈ Condition.exceptedOf parts, swallowed? site.home part = none) → ∀ part ∈ parts,
        ∀ other ∈ part.excepted, swallowed? site.home other = none := by
    intro parts clear part member other inside
    exact clear other (Condition.mem_exceptedOf.2 ⟨part, member, inside⟩)
  induction shaped with
  | leaf within =>
    exact ⟨List.cons_ne_nil _ _, reference_contributes within⟩
  | @all parts nonempty shaped flat inductionHypothesis =>
    have some := (levelItems_of_shaped (.all nonempty shaped flat)).1
    have inside := tokensOf_contributes fun part member =>
      inductionHypothesis part member (below parts clear part member)
    refine ⟨some, Contributes.wrap rfl inside.yields ?_⟩
    rw [Site.leave, if_neg]
    · rfl
    · rw [List.isEmpty_iff]
      exact some
  | any nonempty shaped ending closed each last =>
    have parted := List.forall_mem_append.1 (below _ clear)
    refine comesBack_any nonempty (fun part member => ⟨shaped part member, ?_⟩) ?_
    · exact each part member (parted.1 part member)
    · exact .part ending (last (List.forall_mem_singleton.1 parted.2))
  | exception nonempty shaped ending each inside =>
    have parted := List.forall_mem_append.1 (below _ clear)
    have last := List.forall_mem_singleton.1 parted.2
    refine comesBack_any nonempty (fun part member => ⟨shaped part member, ?_⟩) ?_
    · exact each part member (parted.1 part member)
    · refine .exception (last _ List.mem_cons_self) (inside fun other listed => ?_)
      exact last other (List.mem_cons_of_mem _ listed)

/-! ## Cells are read levelled -/

/-- The items that come back for a numbered alternative. -/
def levelNumbered : Tree → List Tree
  | .all parts => [.all (levelItemsOf parts)]
  | tree => levelItems tree

/-- The items that come back for a cell. -/
def Cell.levelItems : Cell → List Tree
  | clause tree => Notation.levelItems tree
  | alternatives trees => trees.flatMap levelNumbered

theorem numberedTokens_contribute (numbers : site.column.hasAlternatives = true)
    (shaped : Shaped site tree)
    (clear : ∀ part ∈ tree.excepted, swallowed? site.home part = none) :
    levelNumbered tree ≠ [] ∧ Contributes site site.scope
      (numberedTokens site.adjacency site.home tree) (levelNumbered tree) := by
  have back := comesBack_of_clear shaped clear
  cases shaped with
  | leaf within => exact ⟨back.some, back.contributes⟩
  | any nonempty shaped ending closed => exact ⟨back.some, back.contributes⟩
  | exception nonempty shaped ending => exact ⟨back.some, back.contributes⟩
  | @all parts nonempty shaped flat =>
    have inside := tokensOf_contributes fun part member =>
      comesBack_of_clear (shaped part member) fun other listed =>
        clear other (Condition.mem_exceptedOf.2 ⟨part, member, listed⟩)
    have entered : site.enter site.scope .paren = .ok site.scope := by
      rw [Site.enter, numbers, if_pos rfl]
    have some : levelItemsOf parts ≠ [] := back.some
    refine ⟨List.cons_ne_nil _ _, Contributes.wrap entered inside.yields ?_⟩
    simp [Site.leave, numbers, some, levelNumbered]

/-- Where no exception sign takes a timer, the tokens of a cell are read levelled. -/
theorem parseTokens_of_clear {cell : Cell} (shaped : cell.IsShaped site)
    (clear : cell.IsClear site.home) :
    parseTokens site (cellTokens site.adjacency site.home cell) =
      .ok (some (site.cell cell.levelItems)) := by
  cases cell with
  | clause tree =>
    rcases shaped with ⟨_, shaped⟩
    have back : ComesBack site tree := by
      refine comesBack_of_clear shaped fun part member => clear part ?_
      exact List.mem_append_left _ member
    have yields : Yields site site.scope (cellTokens site.adjacency site.home (.clause tree))
        (levelItems tree) := by
      cases shaped with
      | leaf within => exact back.contributes.yields
      | any nonempty shaped ending closed => exact back.contributes.yields
      | exception nonempty shaped ending => exact back.contributes.yields
      | @all parts nonempty shaped flat =>
        refine (tokensOf_contributes fun part member => ?_).yields
        refine comesBack_of_clear (shaped part member) fun other listed => clear other ?_
        exact List.mem_append_left _ (Condition.mem_exceptedOf.2 ⟨part, member, listed⟩)
    exact yields.parseTokens_eq back.some rfl
  | alternatives trees =>
    rcases shaped with ⟨numbers, nonempty, shaped⟩
    have each : ∀ tree ∈ trees, levelNumbered tree ≠ [] ∧ Contributes site site.scope
        (numberedTokens site.adjacency site.home tree) (levelNumbered tree) := by
      intro tree member
      refine numberedTokens_contribute numbers (shaped tree member) fun part listed => clear part ?_
      exact Condition.mem_exceptedOf.2 ⟨tree, member, listed⟩
    have contributes := Contributes.flatMap fun tree member => (each tree member).2
    refine contributes.yields.parseTokens_eq ?_ rfl
    cases trees with
    | nil => contradiction
    | cons tree rest =>
      rw [List.flatMap_cons]
      exact List.append_ne_nil_of_left_ne_nil (each tree List.mem_cons_self).1 _

/-! ## What comes back unchanged -/

/-- One item comes back for a numbered alternative. -/
theorem levelNumbered_eq (shaped : Shaped site tree) :
    ∃ item, levelNumbered tree = [item] ∧ (item = tree ↔ isGroupedAlternative tree = true) := by
  have same := level_eq_self_iff shaped
  cases shaped with
  | leaf within => exact ⟨_, rfl, same⟩
  | any nonempty shaped ending closed => exact ⟨_, rfl, same⟩
  | exception nonempty shaped ending => exact ⟨_, rfl, same⟩
  | all nonempty shaped flat =>
    refine ⟨_, rfl, ?_⟩
    rw [Condition.all.injEq]
    exact levelItemsOf_eq_self_iff shaped

theorem flatMap_levelNumbered_iff {trees : List Tree} (shaped : ∀ tree ∈ trees, Shaped site tree) :
    trees.flatMap levelNumbered = trees ↔ ∀ tree ∈ trees, isGroupedAlternative tree = true := by
  induction trees with
  | nil => simp
  | cons tree rest inductionHypothesis =>
    rcases levelNumbered_eq (shaped tree List.mem_cons_self) with ⟨item, alone, same⟩
    have later := inductionHypothesis fun other member => shaped other (List.mem_cons_of_mem _ member)
    rw [List.flatMap_cons, alone, List.singleton_append, List.cons.injEq, same, later,
      List.forall_mem_cons]

/-- A levelled cell is the cell itself exactly if the cell is grouped. -/
theorem cell_levelItems_iff {cell : Cell} (shaped : cell.IsShaped site) :
    site.cell cell.levelItems = cell ↔ cell.IsGrouped := by
  cases cell with
  | clause tree =>
    rcases shaped with ⟨plain, shaped⟩
    rw [Site.cell, plain, if_neg Bool.false_ne_true, Cell.clause.injEq]
    exact level_eq_self_iff shaped
  | alternatives trees =>
    rcases shaped with ⟨numbers, _, shaped⟩
    rw [Site.cell, numbers, if_pos rfl, Cell.alternatives.injEq]
    exact flatMap_levelNumbered_iff shaped

/-! ## Legible cells -/

/-- A cell that is read from its own tokens has kept every exception, so that no exception
sign is taken for a timer. -/
theorem isClear_of_parseTokens {cell : Cell}
    (back : parseTokens site (cellTokens site.adjacency site.home cell) = .ok (some cell)) :
    cell.IsClear site.home := by
  rcases parseTokens_eq_ok_some.1 back with ⟨items, _, reads, same⟩
  have signs := reads.length_exceptedOf
  rw [← exceptedOf_cell site items, same, count_cellTokens, Condition.exceptedOf, List.count_nil,
    Nat.add_zero, List.length_nil, Nat.zero_add] at signs
  have all := List.countP_eq_length.1 (Nat.le_antisymm List.countP_le_length signs)
  intro part member
  exact Option.isNone_iff_eq_none.1 (all part member)

/-- Outside the route-lock column only a timer can keep a parsed cell from being legible. -/
theorem isLegible_iff_isClear {text : String} {cell : Cell}
    (plain : site.column.hasAlternatives = false) (parsed : parse site text = .ok (some cell)) :
    cell.IsLegible site.home ↔ cell.IsClear site.home := by
  have shaped := shaped_of_parse parsed
  have grouped : cell.IsGrouped := by
    cases cell with
    | clause tree => exact isGrouped_of_shaped plain shaped.2
    | alternatives trees =>
      rw [shaped.1] at plain
      cases plain
  exact and_iff_left grouped

/-- A parsed cell can always be written at its home plant, and reading the text again gives
the same cell exactly if the cell is legible there. -/
theorem parse_render_iff {text : String} {cell : Cell}
    (parsed : parse site text = .ok (some cell)) :
    ∃ written, render site.adjacency site.home cell = .ok written ∧
      (parse site written = .ok (some cell) ↔ cell.IsLegible site.home) := by
  have shaped := shaped_of_parse parsed
  rcases tokenize_render shaped with ⟨written, rendered, tokenized⟩
  have reading : parse site written =
      parseTokens site (cellTokens site.adjacency site.home cell) :=
    Fallible.bind_of_eq_ok tokenized _
  refine ⟨written, rendered, ?_⟩
  rw [reading]
  constructor
  · intro back
    -- Only once the cell is known to be clear, it is known what its tokens are read as.
    have clear := isClear_of_parseTokens back
    rw [parseTokens_of_clear shaped clear, Except.ok.injEq, Option.some.injEq] at back
    exact ⟨clear, (cell_levelItems_iff shaped).1 back⟩
  · rintro ⟨clear, grouped⟩
    rw [parseTokens_of_clear shaped clear, (cell_levelItems_iff shaped).2 grouped]

/-- The column of a cell at a station of the modelled line. -/
def Site.onLine (column : LockColumn) : Site where
  adjacency := .line
  home := "TH62"
  column := column

/-- A cell with names of two neighbours in brackets of every kind comes back. -/
theorem bracketed_cell_comes_back :
    ∃ cell written,
      parse (.onLine .directLock) "(1T) [2T ｢(3T)｣但30秒] [[4T]] 又は \x7b5T 但 \x7b6T 7T\x7d\x7d" =
        .ok (some cell) ∧
      cell.IsLegible "TH62" ∧ render .line "TH62" cell = .ok written ∧
        parse (.onLine .directLock) written = .ok (some cell) := by
  have passed : (parse (.onLine .directLock)
      "(1T) [2T ｢(3T)｣但30秒] [[4T]] 又は \x7b5T 但 \x7b6T 7T\x7d\x7d").toOption.any
      (fun found => found.any fun cell => decide (cell.IsClear "TH62")) = true := by
    decide +kernel
  rcases Fallible.exists_of_any passed with ⟨found, parsed, check⟩
  cases found with
  | none => cases check
  | some cell =>
    have clear : cell.IsClear "TH62" := of_decide_eq_true check
    have legible := (isLegible_iff_isClear rfl parsed).2 clear
    rcases parse_render_iff parsed with ⟨written, rendered, same⟩
    exact ⟨cell, written, parsed, legible, rendered, same.2 legible⟩

/-- The text of the cell is read as something else. -/
def Cell.Changes (site : Site) (cell : Cell) : Prop :=
  ∃ written, render site.adjacency site.home cell = .ok written ∧
    parse site written ≠ .ok (some cell)

private theorem exists_changes_of_check {site : Site} {text : String}
    (check : (parse site text).toOption.any (fun found => found.any fun cell =>
      (render site.adjacency site.home cell).toOption.any fun written =>
        (parse site written).toOption != some (some cell)) = true) :
    ∃ cell, parse site text = .ok (some cell) ∧ cell.Changes site := by
  rcases Fallible.exists_of_any check with ⟨found, parsed, rendering⟩
  cases found with
  | none => cases rendering
  | some cell =>
    rcases Fallible.exists_of_any rendering with ⟨written, rendered, different⟩
    refine ⟨cell, parsed, written, rendered, fun same => ?_⟩
    rw [same] at different
    simp [Except.toOption] at different

/-- An exception for a name that begins as a timer changes, and so does a numbered
alternative that is an operand. -/
theorem timer_names_and_operands_change :
    (∃ cell, parse (.onLine .directLock) "1T 但 \x7b30秒\x7d" = .ok (some cell) ∧
      cell.Changes (.onLine .directLock)) ∧
    ∃ cell, parse (.onLine .routeLock) "(1T) 又は 2T" = .ok (some cell) ∧
      cell.Changes (.onLine .routeLock) := by
  constructor
  · exact exists_changes_of_check (by decide +kernel)
  · exact exists_changes_of_check (by decide +kernel)

end Notation
end SignalBox
