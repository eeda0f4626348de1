import SignalBox.Proofs.Reading
import SignalBox.Proofs.Spelling

namespace SignalBox

/-!
# The shape of parsed cells

Not every condition over names is the reading of a cell.  In a parsed cell a disjunction
has at least two parts and does not end with another disjunction, since alternatives on
the right are continued.  A negation is only ever the last part of a disjunction, and what
it negates is no negation.  A conjunction is never empty.

Outside the route-lock column a conjunction has at least two parts and none of them is a
conjunction: brackets pass their items on, so only an operand that holds several items
is a conjunction.  In a route-lock column parentheses make a conjunction of anything, and
neither is true.
-/

namespace Condition

variable {α : Type}

/-- The condition is a conjunction. -/
def isAll : Condition α → Bool
  | all _ => true
  | _ => false

/-- The condition is a disjunction. -/
def isAny : Condition α → Bool
  | any _ => true
  | _ => false

end Condition

namespace Notation

/-- What the brackets of a cell can say of a name: it stands for an object of the home plant
or of a neighbour, and in a route-lock column it is not reversed. -/
structure Reference.Within (site : Site) (value : Reference) : Prop where
  named : IsName value.token.toList
  placed : value.plant = site.home ∨ value.plant ∈ site.adjacency.neighboursOf site.home
  straight : site.column.hasAlternatives = true → value.reversed = false

/-- The conditions that the cells of a site are read as. -/
inductive Shaped (site : Site) : Tree → Prop
  | leaf {value : Reference} (within : value.Within site) : Shaped site (.leaf value)
  | all {parts : List Tree} (nonempty : parts ≠ []) (shaped : ∀ part ∈ parts, Shaped site part)
    (flat : site.column.hasAlternatives = false →
      2 ≤ parts.length ∧ ∀ part ∈ parts, part.isAll = false) :
    Shaped site (.all parts)
  | any {front : List Tree} {last : Tree} (nonempty : front ≠ [])
    (shaped : ∀ part ∈ front, Shaped site part) (ending : Shaped site last)
    (closed : last.isAny = false) :
    Shaped site (.any (front ++ [last]))
  | exception {front : List Tree} {last : Tree} (nonempty : front ≠ [])
    (shaped : ∀ part ∈ front, Shaped site part) (ending : Shaped site last) :
    Shaped site (.any (front ++ [.not last]))

/-- What a sequence can hold: outside the route-lock column no conjunction, since every
bracket passes its items on. -/
structure IsItem (site : Site) (tree : Tree) : Prop where
  shaped : Shaped site tree
  flat : site.column.hasAlternatives = false → tree.isAll = false

/-- The scopes inside the brackets of a cell. -/
structure Scope.Within (site : Site) (scope : Scope) : Prop where
  placed : scope.plant = site.home ∨ scope.plant ∈ site.adjacency.neighboursOf site.home
  straight : site.column.hasAlternatives = true → scope.reversed = false

variable {site : Site} {scope inner : Scope} {items read held contributed : List Tree}
  {tokens remaining : List Token} {bracket : Bracket} {left right : Tree}

theorem Site.scope_within : site.scope.Within site :=
  ⟨.inl rfl, fun _ => rfl⟩

theorem Scope.Within.enter (within : scope.Within site)
    (entered : site.enter scope bracket = .ok inner) : inner.Within site := by
  cases bracket with
  | totalControl => cases entered; exact within
  | group => cases entered; exact within
  | unlock => cases entered; exact ⟨within.placed, within.straight⟩
  | paren =>
    cases entered
    split
    · exact within
    · next other => exact ⟨within.placed, fun numbered => absurd numbered other⟩
  | neighbour hops =>
    rw [Site.enter] at entered
    split at entered
    · next plant found =>
      cases entered
      refine ⟨.inr ?_, within.straight⟩
      cases hops with
      | zero => cases found
      | succ hops => exact List.mem_of_getElem? found
    · cases entered

theorem Scope.Within.isItem (within : scope.Within site) {token : String}
    (named : IsName token.toList) : IsItem site (.leaf (scope.reference token)) :=
  ⟨.leaf ⟨named, within.placed, within.straight⟩, fun _ => rfl⟩

/-- An operand with several items is a conjunction of them. -/
theorem shaped_of_group (shaped : ∀ item ∈ items, IsItem site item)
    (grouped : group items = .ok left) : Shaped site left := by
  rcases group_eq_ok.1 grouped with ⟨nonempty, rfl⟩
  match items with
  | [] => contradiction
  | [item] => exact (shaped item List.mem_cons_self).shaped
  | first :: second :: rest =>
    refine .all nonempty (fun part member => (shaped part member).shaped) fun other => ⟨?_, ?_⟩
    · simp
    · exact fun part member => (shaped part member).flat other

private theorem shaped_front (shaped : Shaped site left) : ∀ part ∈ [left], Shaped site part := by
  intro part member
  rw [List.mem_singleton.1 member]
  exact shaped

theorem isItem_exception (before : Shaped site left) (after : Shaped site right) :
    IsItem site (exception left right) :=
  ⟨.exception (List.cons_ne_nil _ _) (shaped_front before) after, fun _ => rfl⟩

/-- A disjunction on the right keeps its last part, so it stays closed. -/
theorem isItem_alternative (before : Shaped site left) (after : Shaped site right) :
    IsItem site (alternative left right) := by
  cases after with
  | leaf within =>
    exact ⟨.any (List.cons_ne_nil _ _) (shaped_front before) (.leaf within) rfl, fun _ => rfl⟩
  | all nonempty shaped flat =>
    exact ⟨.any (List.cons_ne_nil _ _) (shaped_front before) (.all nonempty shaped flat) rfl,
      fun _ => rfl⟩
  | any nonempty shaped ending closed =>
    exact ⟨.any (List.cons_ne_nil _ _) (List.forall_mem_cons.2 ⟨before, shaped⟩) ending closed,
      fun _ => rfl⟩
  | exception nonempty shaped ending =>
    exact ⟨.exception (List.cons_ne_nil _ _) (List.forall_mem_cons.2 ⟨before, shaped⟩) ending,
      fun _ => rfl⟩

theorem isItem_of_setTimer {seconds : Seconds} (shaped : ∀ item ∈ items, IsItem site item)
    (set : setTimer seconds items = .ok read) : ∀ item ∈ read, IsItem site item := by
  rw [setTimer] at set
  split at set
  · next value last =>
    cases set
    intro item member
    rcases List.mem_append.1 member with before | same
    · exact shaped item (List.dropLast_subset _ before)
    · rw [List.mem_singleton.1 same]
      cases (shaped _ (List.mem_of_getLast? last)).shaped with
      | leaf within =>
        exact ⟨.leaf ⟨within.named, within.placed, within.straight⟩, fun _ => rfl⟩
  · cases set

theorem isItem_of_leave (shaped : ∀ item ∈ held, IsItem site item)
    (left : site.leave held bracket = .ok contributed) :
    ∀ item ∈ contributed, IsItem site item := by
  rcases leave_cases left with rfl | rfl | ⟨numbered, nonempty, rfl⟩
  · exact shaped
  · intro item member
    cases member
  · intro item member
    rw [List.mem_singleton.1 member]
    refine ⟨.all nonempty (fun part inside => (shaped part inside).shaped) ?_, ?_⟩
    all_goals
      intro other
      rw [numbered] at other
      cases other

/-- What is left of the tokens is their end. -/
theorem Reads.remaining_suffix (reads : Reads site scope items tokens read remaining) :
    remaining <:+ tokens := by
  induction reads with
  | ending => exact List.suffix_refl _
  | closing bracket rest => exact List.suffix_refl _
  | name behind inductionHypothesis => exact inductionHypothesis.trans (List.suffix_cons _ _)
  | timer set behind inductionHypothesis => exact inductionHypothesis.trans (List.suffix_cons _ _)
  | unlessSign before behind after inductionHypothesis =>
    exact inductionHypothesis.trans (List.suffix_cons _ _)
  | orSign before behind after inductionHypothesis =>
    exact inductionHypothesis.trans (List.suffix_cons _ _)
  | bracket entered inside left outside nested later =>
    exact later.trans ((List.suffix_cons _ _).trans (nested.trans (List.suffix_cons _ _)))

/-- Every rule keeps the items of a sequence in shape. -/
theorem Reads.isItem (reads : Reads site scope items tokens read remaining)
    (within : scope.Within site) (named : ∀ name, .name name ∈ tokens → IsName name.toList)
    (shaped : ∀ item ∈ items, IsItem site item) : ∀ item ∈ read, IsItem site item := by
  induction reads with
  | ending => exact shaped
  | closing bracket rest => exact shaped
  | name behind inductionHypothesis =>
    apply inductionHypothesis within
    · exact fun name member => named name (List.mem_cons_of_mem _ member)
    · intro item member
      rcases List.mem_append.1 member with before | same
      · exact shaped item before
      · rw [List.mem_singleton.1 same]
        exact within.isItem (named _ List.mem_cons_self)
  | timer set behind inductionHypothesis =>
    apply inductionHypothesis within
    · exact fun name member => named name (List.mem_cons_of_mem _ member)
    · exact isItem_of_setTimer shaped set
  | unlessSign before behind after inductionHypothesis =>
    have operand := inductionHypothesis within
      (fun name member => named name (List.mem_cons_of_mem _ member)) (by simp)
    intro item member
    rw [List.mem_singleton.1 member]
    -- Operands are grouped first, so both sides are conditions of their own.
    exact isItem_exception (shaped_of_group shaped before) (shaped_of_group operand after)
  | orSign before behind after inductionHypothesis =>
    have operand := inductionHypothesis within
      (fun name member => named name (List.mem_cons_of_mem _ member)) (by simp)
    intro item member
    rw [List.mem_singleton.1 member]
    exact isItem_alternative (shaped_of_group shaped before) (shaped_of_group operand after)
  | bracket entered inside left outside nested later =>
    have inner := nested (within.enter entered)
      (fun name member => named name (List.mem_cons_of_mem _ member)) (by simp)
    apply later within
    · intro name member
      refine named name (List.mem_cons_of_mem _ ?_)
      exact inside.remaining_suffix.subset (List.mem_cons_of_mem _ member)
    · intro item member
      rcases List.mem_append.1 member with before | new
      · exact shaped item before
      · exact isItem_of_leave inner left item new

/-- The shape of a cell: one condition, or in a route-lock column one or more
alternatives. -/
def Cell.IsShaped (site : Site) : Cell → Prop
  | clause tree => site.column.hasAlternatives = false ∧ Shaped site tree
  | alternatives trees =>
    site.column.hasAlternatives = true ∧ trees ≠ [] ∧ ∀ tree ∈ trees, Shaped site tree

/-- Every parsed cell has the shape of its site. -/
theorem shaped_of_parse {text : String} {cell : Cell} (parsed : parse site text = .ok (some cell)) :
    cell.IsShaped site := by
  rcases parse_eq_ok.1 parsed with ⟨tokens, tokenized, said⟩
  rcases parseTokens_eq_ok_some.1 said with ⟨items, nonempty, reads, rfl⟩
  have shaped := reads.isItem site.scope_within (fun name => isName_of_scan tokenized) (by simp)
  rw [Site.cell]
  split
  · next numbered => exact ⟨numbered, nonempty, fun tree member => (shaped tree member).shaped⟩
  · next other =>
    exact ⟨Bool.eq_false_iff.2 other, shaped_of_group shaped (group_eq_ok.2 ⟨nonempty, rfl⟩)⟩

end Notation
end SignalBox
