import SignalBox.Proofs.Rendering
import SignalBox.Proofs.Survey

namespace SignalBox

/-!
# Counting exceptions

A condition makes an exception for every negation in it.  Reading makes an exception only of
an exception sign, so it never makes more of them than the text has signs; total control may
drop some.  Writing gives each exception its sign, but a sign that is taken for a timer counts
no longer.  Together this tells whether an exception was lost on the way.
-/

namespace Condition

variable {α : Type}

mutual

/-- The conditions that a condition makes exceptions for. -/
def excepted : Condition α → List (Condition α)
  | leaf _ => []
  | all parts => exceptedOf parts
  | any parts => exceptedOf parts
  | not part => part :: excepted part

/-- The conditions that several conditions make exceptions for, from left to right. -/
def exceptedOf : List (Condition α) → List (Condition α)
  | [] => []
  | part :: rest => excepted part ++ exceptedOf rest

end

theorem mem_exceptedOf {tree : Condition α} {parts : List (Condition α)} :
    tree ∈ exceptedOf parts ↔ ∃ part ∈ parts, tree ∈ excepted part := by
  induction parts with
  | nil => simp [exceptedOf]
  | cons part rest inductionHypothesis =>
    simp only [exceptedOf, List.mem_append, inductionHypothesis, List.mem_cons,
      exists_eq_or_imp]

theorem forall_mem_exceptedOf {holds : Condition α → Prop} {parts : List (Condition α)} :
    (∀ tree ∈ exceptedOf parts, holds tree) ↔
      ∀ part ∈ parts, ∀ tree ∈ part.excepted, holds tree := by
  constructor
  · intro all part member tree inside
    exact all tree (mem_exceptedOf.2 ⟨part, member, inside⟩)
  · intro each tree listed
    rcases mem_exceptedOf.1 listed with ⟨part, member, inside⟩
    exact each part member tree inside

theorem exceptedOf_append (first second : List (Condition α)) :
    exceptedOf (first ++ second) = exceptedOf first ++ exceptedOf second := by
  induction first with
  | nil => rfl
  | cons part rest inductionHypothesis =>
    rw [List.cons_append, exceptedOf, inductionHypothesis, exceptedOf, List.append_assoc]

theorem excepted_conjunction (items : List (Condition α)) :
    excepted (conjunction items) = exceptedOf items := by
  match items with
  | [] => rfl
  | [item] => rw [conjunction, exceptedOf, exceptedOf, List.append_nil]
  | first :: second :: rest => rfl

end Condition

namespace Notation

open Printer

variable {site : Site} {scope : Scope} {items read held contributed : List Tree}
  {remaining : List Token}

/-! ## Exceptions that are read -/

theorem exceptedOf_setTimer {seconds : Seconds} (set : setTimer seconds items = .ok read) :
    Condition.exceptedOf read = Condition.exceptedOf items := by
  rw [setTimer] at set
  split at set
  · next value last =>
    cases set
    rcases List.getLast?_eq_some_iff.1 last with ⟨front, rfl⟩
    rw [List.dropLast_concat, Condition.exceptedOf_append, Condition.exceptedOf_append]
    rfl
  · cases set

theorem excepted_alternative (left right : Tree) :
    (alternative left right).excepted = left.excepted ++ right.excepted := by
  cases right <;> simp [alternative, Condition.excepted, Condition.exceptedOf]

theorem excepted_exception (left right : Tree) :
    (exception left right).excepted = left.excepted ++ right :: right.excepted := by
  simp [exception, Condition.excepted, Condition.exceptedOf]

theorem length_exceptedOf_leave {bracket : Bracket}
    (left : site.leave held bracket = .ok contributed) :
    (Condition.exceptedOf contributed).length ≤ (Condition.exceptedOf held).length := by
  rcases leave_cases left with rfl | rfl | ⟨_, _, rfl⟩
  · exact Nat.le_refl _
  · exact Nat.zero_le _
  · simp [Condition.exceptedOf, Condition.excepted]

/-- Every rule that makes an exception uses up an exception sign. -/
theorem Reads.length_exceptedOf {tokens : List Token}
    (reads : Reads site scope items tokens read remaining) :
    (Condition.exceptedOf read).length + remaining.count .unlessSign ≤
      (Condition.exceptedOf items).length + tokens.count .unlessSign := by
  induction reads with
  | ending => exact Nat.le_refl _
  | closing bracket rest => exact Nat.le_refl _
  | @name scope items read rest remaining token behind inductionHypothesis =>
    rw [Condition.exceptedOf_append, List.length_append] at inductionHypothesis
    have same : List.count .unlessSign (.name token :: rest) = rest.count .unlessSign :=
      List.count_cons_of_ne (by simp)
    rw [same]
    exact inductionHypothesis
  | timer set behind inductionHypothesis =>
    rw [exceptedOf_setTimer set] at inductionHypothesis
    rw [List.count_cons_of_ne (by simp)]
    exact inductionHypothesis
  | unlessSign before behind after inductionHypothesis =>
    rcases group_eq_ok.1 before with ⟨_, rfl⟩
    rcases group_eq_ok.1 after with ⟨_, rfl⟩
    rw [List.count_cons_self]
    simp only [Condition.exceptedOf, excepted_exception, Condition.excepted_conjunction,
      List.append_nil, List.length_append, List.length_cons, List.length_nil] at inductionHypothesis ⊢
    omega
  | orSign before behind after inductionHypothesis =>
    rcases group_eq_ok.1 before with ⟨_, rfl⟩
    rcases group_eq_ok.1 after with ⟨_, rfl⟩
    rw [List.count_cons_of_ne (by simp)]
    simp only [Condition.exceptedOf, excepted_alternative, Condition.excepted_conjunction,
      List.append_nil, List.length_append, List.length_nil] at inductionHypothesis ⊢
    omega
  | bracket entered inside left outside nested later =>
    -- Signs inside the bracket pay for the items inside, and those behind it for the rest.
    have fewer := length_exceptedOf_leave left
    rw [List.count_cons_of_ne (by simp)] at nested ⊢
    rw [Condition.exceptedOf_append, List.length_append] at later
    simp only [Condition.exceptedOf, List.length_nil] at nested
    omega

/-! ## Exceptions that are written -/

theorem count_enclosed (bracket : Bracket) (tokens : List Token) :
    (enclosed bracket tokens).count .unlessSign = tokens.count .unlessSign := by
  simp [enclosed]

theorem count_referenceTokens (adjacency : Adjacency) (home : String) (value : Reference) :
    (referenceTokens adjacency home value).count .unlessSign = 0 := by
  have turned : (turnedTokens value).count .unlessSign = 0 := by
    rw [turnedTokens]
    split
    · simp [enclosed]
    · simp
  have unlocked : (unlockedTokens value).count .unlessSign = 0 := by
    rw [unlockedTokens]
    split
    · rw [count_enclosed, turned]
    · exact turned
  have placed : (placedTokens adjacency home value).count .unlessSign = 0 := by
    rw [placedTokens]
    split
    · exact unlocked
    · split
      · rw [count_enclosed, unlocked]
      · exact unlocked
  rw [referenceTokens, List.count_append, placed]
  cases value.timer <;> simp

/-- The signs between the parts of a disjunction are no exception signs. -/
theorem count_continuedTokens (adjacency : Adjacency) (home : String) (parts : List Tree) :
    (continuedTokens adjacency home parts).count .unlessSign =
      (tokensOf adjacency home parts).count .unlessSign := by
  induction parts with
  | nil => rfl
  | cons part rest inductionHypothesis =>
    have free : (sign part).count .unlessSign = 0 := by cases part <;> simp [sign]
    rw [continuedTokens, tokensOf, List.count_append, List.count_append, List.count_append, free,
      inductionHypothesis, Nat.zero_add]

theorem count_joinedTokens (adjacency : Adjacency) (home : String) (parts : List Tree) :
    (joinedTokens adjacency home parts).count .unlessSign =
      (tokensOf adjacency home parts).count .unlessSign := by
  cases parts with
  | nil => rfl
  | cons part rest =>
    rw [joinedTokens, tokensOf, List.count_append, List.count_append, count_continuedTokens]

/-- Behind its sign a condition keeps its own exceptions.  A sign that is taken for a timer
stands in front of a name, which has none. -/
theorem count_exceptionTokens (adjacency : Adjacency) (home : String) (part : Tree) :
    (exceptionTokens home part (tokens adjacency home part)).count .unlessSign =
      (tokens adjacency home part).count .unlessSign +
        if (swallowed? home part).isNone then 1 else 0 := by
  rw [exceptionTokens]
  cases taken : swallowed? home part with
  | none => exact List.count_cons_self
  | some found =>
    cases part with
    | all parts => cases taken
    | any parts => cases taken
    | not part => cases taken
    | leaf value =>
      have none : (tokens adjacency home (.leaf value)).count .unlessSign = 0 :=
        count_referenceTokens adjacency home value
      have less := (List.tail_sublist (tokens adjacency home (.leaf value))).count_le .unlessSign
      have named : (nameTokens found.2).count .unlessSign = 0 := by
        rw [nameTokens]
        split <;> simp
      rw [none] at less ⊢
      simp [named, Nat.le_zero.1 less]

/-- Whether the sign of an exception stands as it is. -/
def isKept (home : String) (part : Tree) : Bool :=
  (swallowed? home part).isNone

/-- The exception signs among the tokens of a condition are those of its exceptions that
are not taken for timers. -/
theorem count_tokens (adjacency : Adjacency) (home : String) (tree : Tree) :
    (tokens adjacency home tree).count .unlessSign = tree.excepted.countP (isKept home) := by
  have several : ∀ parts : List Tree, (∀ part ∈ parts,
      (tokens adjacency home part).count .unlessSign = part.excepted.countP (isKept home)) →
      (tokensOf adjacency home parts).count .unlessSign =
        (Condition.exceptedOf parts).countP (isKept home) := by
    intro parts each
    induction parts with
    | nil => rfl
    | cons part rest inductionHypothesis =>
      rw [tokensOf, Condition.exceptedOf, List.count_append, List.countP_append,
        each part List.mem_cons_self,
        inductionHypothesis fun other member => each other (List.mem_cons_of_mem _ member)]
  induction tree using Condition.induction with
  | leaf value => exact count_referenceTokens adjacency home value
  | all parts inductionHypothesis =>
    rw [tokens, count_enclosed, Condition.excepted]
    exact several parts inductionHypothesis
  | any parts inductionHypothesis =>
    rw [tokens, count_enclosed, count_joinedTokens, Condition.excepted]
    exact several parts inductionHypothesis
  | not part inductionHypothesis =>
    rw [tokens, count_exceptionTokens, inductionHypothesis, Condition.excepted, List.countP_cons,
      isKept]

theorem count_tokensOf (adjacency : Adjacency) (home : String) (parts : List Tree) :
    (tokensOf adjacency home parts).count .unlessSign =
      (Condition.exceptedOf parts).countP (isKept home) := by
  have whole := count_tokens adjacency home (.all parts)
  rw [tokens, count_enclosed] at whole
  exact whole

theorem count_cellTokens (adjacency : Adjacency) (home : String) (cell : Cell) :
    (cellTokens adjacency home cell).count .unlessSign =
      (Condition.exceptedOf cell.trees).countP (isKept home) := by
  have single : ∀ tree : Tree, Condition.exceptedOf [tree] = tree.excepted := fun tree =>
    List.append_nil _
  cases cell with
  | clause tree =>
    rw [Cell.trees, single]
    cases tree with
    | all parts => exact count_tokensOf adjacency home parts
    | leaf value => exact count_tokens adjacency home _
    | any parts => exact count_tokens adjacency home _
    | not part => exact count_tokens adjacency home _
  | alternatives trees =>
    have numbered : ∀ tree, (numberedTokens adjacency home tree).count .unlessSign =
        tree.excepted.countP (isKept home) := by
      intro tree
      cases tree with
      | all parts => exact (count_enclosed .paren _).trans (count_tokensOf adjacency home parts)
      | leaf value => exact count_tokens adjacency home _
      | any parts => exact count_tokens adjacency home _
      | not part => exact count_tokens adjacency home _
    rw [cellTokens, Cell.trees]
    induction trees with
    | nil => rfl
    | cons tree rest inductionHypothesis =>
      rw [List.flatMap_cons, List.count_append, numbered, inductionHypothesis,
        Condition.exceptedOf, List.countP_append]

theorem exceptedOf_cell (site : Site) (items : List Tree) :
    Condition.exceptedOf (site.cell items).trees = Condition.exceptedOf items := by
  rw [Site.cell]
  split
  · rfl
  · rw [Cell.trees, Condition.exceptedOf, Condition.excepted_conjunction]
    exact List.append_nil _

end Notation
end SignalBox
