import SignalBox.Proofs.Occurrences

namespace SignalBox
namespace Notation

/-!
# Cells without total control

What stands in total control is read like everything else and then dropped.  A list of tokens
that is read therefore says the same without it: `withoutControl` deletes every outermost pair
of total control with all that is inside, and what is left is read, with the same result.

The deletion only counts brackets of total control.  `Uncontrols` says what it does without
counting: it deletes pairs, and in a pair every bracket is closed by its own kind.
-/

/-- The tokens outside total control, where a number of its brackets are open in front of
them. -/
def outsideControl : Nat → List Token → List Token
  | _, [] => []
  | depth, .opening .totalControl :: rest => outsideControl (depth + 1) rest
  | depth + 1, .closing .totalControl :: rest => outsideControl depth rest
  | depth + 1, _ :: rest => outsideControl (depth + 1) rest
  | 0, token :: rest => token :: outsideControl 0 rest

/-- The tokens outside total control. -/
def withoutControl (tokens : List Token) : List Token :=
  outsideControl 0 tokens

/-- The second list of tokens is the first one without its outermost pairs of total control and
all that is inside of them. -/
inductive Uncontrols : List Token → List Token → Prop
  | nil : Uncontrols [] []
  | token {token : Token} {rest left : List Token} (other : token ≠ .opening .totalControl)
    (behind : Uncontrols rest left) : Uncontrols (token :: rest) (token :: left)
  | pair {inside rest left : List Token} (within : Balanced inside)
    (behind : Uncontrols rest left) :
    Uncontrols (.opening .totalControl :: (inside ++ .closing .totalControl :: rest)) left

variable {site : Site} {scope : Scope} {bracket : Bracket} {items : List Tree}
  {tokens first second left others : List Token} {phrase : Phrase}

/-! ## Deleting pairs -/

theorem outsideControl_opening (depth : Nat) (rest : List Token) :
    outsideControl depth (.opening .totalControl :: rest) = outsideControl (depth + 1) rest := by
  cases depth with
  | zero => rfl
  | succ depth => rfl

/-- Inside of total control everything but its brackets is deleted. -/
theorem outsideControl_succ_cons {token : Token} (opens : token ≠ .opening .totalControl)
    (closes : token ≠ .closing .totalControl) (depth : Nat) (rest : List Token) :
    outsideControl (depth + 1) (token :: rest) = outsideControl (depth + 1) rest := by
  rw [outsideControl]
  · exact opens
  · exact closes

/-- Outside of total control everything but its opening brackets is kept. -/
theorem withoutControl_cons {token : Token} (opens : token ≠ .opening .totalControl)
    (rest : List Token) : withoutControl (token :: rest) = token :: withoutControl rest := by
  rw [withoutControl, outsideControl]
  · rfl
  · exact opens

theorem closing_ne_opening (first second : Bracket) : Token.closing first ≠ .opening second :=
  nofun

theorem opening_ne (other : bracket ≠ .totalControl) :
    Token.opening bracket ≠ .opening .totalControl :=
  fun same => other (Token.opening.inj same)

theorem closing_ne (other : bracket ≠ .totalControl) :
    Token.closing bracket ≠ .closing .totalControl :=
  fun same => other (Token.closing.inj same)

theorem ne_of_plain {token : Token} (plain : token.isBracket = false) (bracket : Bracket) :
    token ≠ .opening bracket ∧ token ≠ .closing bracket := by
  constructor
  · rintro rfl
    cases plain
  · rintro rfl
    cases plain

theorem withoutControl_closing (bracket : Bracket) (rest : List Token) :
    withoutControl (.closing bracket :: rest) = .closing bracket :: withoutControl rest :=
  withoutControl_cons (closing_ne_opening bracket .totalControl) rest

theorem withoutControl_token {token : Token} (plain : token.isBracket = false)
    (rest : List Token) : withoutControl (token :: rest) = token :: withoutControl rest :=
  withoutControl_cons (ne_of_plain plain .totalControl).1 rest

/-- Tokens whose brackets pair up leave nothing inside of total control, and as much of it is
open behind them as before. -/
theorem Balanced.outsideControl_succ (balanced : Balanced tokens) (depth : Nat)
    (rest : List Token) :
    outsideControl (depth + 1) (tokens ++ rest) = outsideControl (depth + 1) rest := by
  induction balanced generalizing depth rest with
  | nil => rfl
  | token plain behind inductionHypothesis =>
    rcases ne_of_plain plain .totalControl with ⟨opens, closes⟩
    rw [List.cons_append, outsideControl_succ_cons opens closes, inductionHypothesis]
  | pair bracket within behind insideHypothesis inductionHypothesis =>
    rw [List.cons_append, List.append_assoc, List.cons_append]
    by_cases controls : bracket = .totalControl
    · rw [controls, outsideControl_opening, insideHypothesis]
      exact inductionHypothesis depth rest
    · have mixed := closing_ne_opening bracket .totalControl
      have opens := outsideControl_succ_cons (opening_ne controls) nofun depth
      have closes := outsideControl_succ_cons mixed (closing_ne controls) depth
      rw [opens, insideHypothesis, closes, inductionHypothesis]

/-- A pair of total control is deleted. -/
theorem Balanced.withoutControl_pair (within : Balanced tokens) (rest : List Token) :
    withoutControl (.opening .totalControl :: (tokens ++ .closing .totalControl :: rest)) =
      withoutControl rest := by
  rw [withoutControl, outsideControl_opening, within.outsideControl_succ]
  rfl

/-- What stands behind tokens whose brackets pair up is no part of their total control. -/
theorem Balanced.withoutControl_append (balanced : Balanced tokens) (rest : List Token) :
    withoutControl (tokens ++ rest) = withoutControl tokens ++ withoutControl rest := by
  induction balanced generalizing rest with
  | nil => rfl
  | token plain behind inductionHypothesis =>
    rw [List.cons_append, withoutControl_token plain, withoutControl_token plain,
      inductionHypothesis, List.cons_append]
  | pair bracket within behind insideHypothesis inductionHypothesis =>
    rw [List.cons_append, List.append_assoc, List.cons_append]
    by_cases controls : bracket = .totalControl
    · rw [controls, within.withoutControl_pair, within.withoutControl_pair, inductionHypothesis]
    · have opens := withoutControl_cons (opening_ne controls)
      rw [opens, opens, insideHypothesis, insideHypothesis, withoutControl_closing,
        withoutControl_closing, inductionHypothesis, List.cons_append, List.append_assoc,
        List.cons_append]

theorem Uncontrols.append (uncontrols : Uncontrols first left) (behind : Uncontrols second others) :
    Uncontrols (first ++ second) (left ++ others) := by
  induction uncontrols with
  | nil => exact behind
  | token other _ inductionHypothesis => exact .token other inductionHypothesis
  | pair within _ inductionHypothesis =>
    rw [List.cons_append, List.append_assoc]
    exact .pair within inductionHypothesis

/-- Where all brackets pair up, counting those of total control deletes the pairs. -/
theorem Balanced.uncontrols (balanced : Balanced tokens) :
    Uncontrols tokens (withoutControl tokens) := by
  induction balanced with
  | nil => exact .nil
  | token plain behind inductionHypothesis =>
    rw [withoutControl_token plain]
    exact .token (ne_of_plain plain .totalControl).1 inductionHypothesis
  | pair bracket within behind insideHypothesis inductionHypothesis =>
    by_cases controls : bracket = .totalControl
    · rw [controls, within.withoutControl_pair]
      exact .pair within inductionHypothesis
    · have opens := withoutControl_cons (opening_ne controls)
      rw [opens, within.withoutControl_append, withoutControl_closing]
      have closes := Uncontrols.token (closing_ne_opening bracket _) inductionHypothesis
      exact .token (opening_ne controls) (insideHypothesis.append closes)

/-! ## Reading without total control -/

/-- What a phrase stands for without the total control in it.  Of an atom nothing may be left,
so it is said of an operand in front of it. -/
def Phrase.Stands (site : Site) : Phrase → Scope → List Token → List Tree → Prop
  | .atom, scope, tokens, items => ∀ front given, Derives site .operand scope front given →
    Derives site .operand scope (front ++ tokens) (given ++ items)
  | .operand, scope, tokens, items => Derives site .operand scope tokens items
  | .sequence, scope, tokens, items => Derives site .sequence scope tokens items

theorem stands_bracket (within : Balanced tokens) (other : bracket ≠ .totalControl)
    (atom : Derives site .atom scope
      (.opening bracket :: (withoutControl tokens ++ [.closing bracket])) items) :
    Phrase.atom.Stands site scope
      (withoutControl (.opening bracket :: (tokens ++ [.closing bracket]))) items := by
  rw [withoutControl_cons (opening_ne other), within.withoutControl_append, withoutControl_closing]
  exact fun _ _ before => .atom before atom

/-- A phrase stands for the same items without the total control in it. -/
theorem Derives.withoutControl (derived : Derives site phrase scope tokens items) :
    phrase.Stands site scope (withoutControl tokens) items := by
  induction derived with
  | name token => exact fun _ _ before => .atom before (.name token)
  | group inside nonempty inductionHypothesis =>
    exact stands_bracket inside.balanced nofun (.group inductionHypothesis nonempty)
  | totalControl inside inductionHypothesis =>
    rw [inside.balanced.withoutControl_pair []]
    intro front given before
    change Derives site .operand _ (front ++ []) (given ++ [])
    rw [List.append_nil, List.append_nil]
    exact before
  | neighbour found inside inductionHypothesis =>
    exact stands_bracket inside.balanced nofun (.neighbour found inductionHypothesis)
  | unlock inside inductionHypothesis =>
    exact stands_bracket inside.balanced nofun (.unlock inductionHypothesis)
  | reversed other inside inductionHypothesis =>
    exact stands_bracket inside.balanced nofun (.reversed other inductionHypothesis)
  | numbered routeLock inside nonempty inductionHypothesis =>
    exact stands_bracket inside.balanced nofun (.numbered routeLock inductionHypothesis nonempty)
  | nothing => exact .nothing
  | atom before last front inductionHypothesis =>
    rw [before.balanced.withoutControl_append]
    exact inductionHypothesis _ _ front
  | timer seconds before inductionHypothesis =>
    rw [before.balanced.withoutControl_append]
    exact .timer seconds inductionHypothesis
  | operand whole inductionHypothesis => exact .operand inductionHypothesis
  | exception before first behind second front inductionHypothesis =>
    rw [before.balanced.withoutControl_append, withoutControl_token rfl]
    exact .exception front first inductionHypothesis second
  | alternative before first behind second continued front inductionHypothesis =>
    rw [before.balanced.withoutControl_append, withoutControl_token rfl]
    exact .alternative front first inductionHypothesis second continued

/-- A list of tokens that is read says the same without its outermost pairs of total control
and all that is inside of them. -/
theorem total_control_is_inert {site : Site} {tokens : List Token} {found : Option Cell}
    (accepted : parseTokens site tokens = .ok found) :
    Uncontrols tokens (withoutControl tokens) ∧
      parseTokens site (withoutControl tokens) = .ok found := by
  rcases parseTokens_eq_ok.1 accepted with ⟨items, reads, said⟩
  have derived := reads_to_end_iff_derives.1 reads
  refine ⟨derived.balanced.uncontrols, parseTokens_eq_ok.2 ⟨items, ?_, said⟩⟩
  exact reads_to_end_iff_derives.2 derived.withoutControl

/-- Total control in front of a timer, beside an operator and in a bracket that holds one item,
with further total control and an operator inside. -/
def controlledTokens : List Token :=
  [.name "1T", .opening .totalControl, .name "2R", .opening .totalControl, .name "3R",
    .closing .totalControl, .closing .totalControl, .timer 30, .orSign, .opening .totalControl,
    .closing .totalControl, .opening .paren, .name "4R", .opening .totalControl, .name "5R",
    .unlessSign, .name "6R", .closing .totalControl, .closing .paren]

/-- The timer is that of the name in front of the total control, and the parentheses hold one
item. -/
theorem controlled_tokens_say_the_same :
    ∃ found, parseTokens ⟨.line, "TH71", .directLock⟩ controlledTokens = .ok found ∧
      parseTokens ⟨.line, "TH71", .directLock⟩
        [.name "1T", .timer 30, .orSign, .opening .paren, .name "4R", .closing .paren] =
          .ok found := by
  have passed : Succeeds (parseTokens ⟨.line, "TH71", .directLock⟩ controlledTokens) := by
    decide +kernel
  rcases passed with ⟨found, accepted⟩
  exact ⟨found, accepted, (total_control_is_inert accepted).2⟩

end Notation
end SignalBox
