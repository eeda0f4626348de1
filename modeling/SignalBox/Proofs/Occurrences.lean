import Mathlib.Data.List.Forall2
import SignalBox.Proofs.Grammar
import SignalBox.Proofs.Survey

namespace SignalBox
namespace Notation

/-!
# Names and the brackets around them

What a cell says of its names can be read off the list of its tokens, without reading it as a
condition.  The brackets of a cell pair up, so every token lies inside certain pairs; a name
outside total control occurs with the brackets around it and with the timers between it and
the next such name.

The leaves of a cell mirror these occurrences one by one and in order.  Operators, groups and
alternatives decide how the leaves are put together, but no leaf is lost or moved by them.
The proof goes along the grammar: the scope in which a phrase stands says what the brackets
around it say, and a timer belongs to the last name of the operand before it, because that
operand ends with a leaf.
-/

/-! ## Brackets in a list of tokens -/

/-- Whether a token opens or closes a bracket. -/
def Token.isBracket : Token → Bool
  | opening _ => true
  | closing _ => true
  | _ => false

/-- Every bracket is closed by one of its own kind, and all that is opened inside it is
closed inside it. -/
inductive Balanced : List Token → Prop
  | nil : Balanced []
  | token {token : Token} {rest : List Token} (plain : token.isBracket = false)
    (behind : Balanced rest) : Balanced (token :: rest)
  | pair (bracket : Bracket) {inside rest : List Token} (within : Balanced inside)
    (behind : Balanced rest) :
    Balanced (.opening bracket :: (inside ++ .closing bracket :: rest))

/-- A token that is no bracket, with the brackets around it, the innermost first. -/
structure Place where
  brackets : List Bracket
  token : Token
deriving DecidableEq, Repr

/-- The places of the tokens that stand behind open brackets. -/
def places : List Bracket → List Token → List Place
  | _, [] => []
  | opened, .opening bracket :: rest => places (bracket :: opened) rest
  | opened, .closing _ :: rest => places opened.tail rest
  | opened, token :: rest => ⟨opened, token⟩ :: places opened rest

/-- The places outside total control. -/
def uncontrolled (found : List Place) : List Place :=
  found.filter fun place => decide (.totalControl ∉ place.brackets)

variable {site : Site} {scope : Scope} {opened : List Bracket} {bracket : Bracket}
  {tokens first second : List Token} {items : List Tree} {phrase : Phrase}

theorem Balanced.append (balanced : Balanced first) (other : Balanced second) :
    Balanced (first ++ second) := by
  induction balanced with
  | nil => exact other
  | token plain behind inductionHypothesis => exact .token plain inductionHypothesis
  | pair bracket within behind _ inductionHypothesis =>
    rw [List.cons_append, List.append_assoc]
    exact .pair bracket within inductionHypothesis

theorem Balanced.enclosed (balanced : Balanced tokens) (bracket : Bracket) :
    Balanced (.opening bracket :: (tokens ++ [.closing bracket])) :=
  .pair bracket balanced .nil

theorem places_opening (opened : List Bracket) (bracket : Bracket) (rest : List Token) :
    places opened (.opening bracket :: rest) = places (bracket :: opened) rest :=
  rfl

theorem places_closing (opened : List Bracket) (bracket other : Bracket) (rest : List Token) :
    places (other :: opened) (.closing bracket :: rest) = places opened rest :=
  rfl

theorem places_token {token : Token} (plain : token.isBracket = false) (opened : List Bracket)
    (rest : List Token) :
    places opened (token :: rest) = ⟨opened, token⟩ :: places opened rest := by
  cases token with
  | opening bracket => cases plain
  | closing bracket => cases plain
  | timer seconds => rfl
  | unlessSign => rfl
  | orSign => rfl
  | name text => rfl

/-- Behind tokens whose brackets pair up the same brackets are open as before them. -/
theorem Balanced.places_append (balanced : Balanced tokens) (opened : List Bracket)
    (rest : List Token) :
    places opened (tokens ++ rest) = places opened tokens ++ places opened rest := by
  induction balanced generalizing opened rest with
  | nil => rfl
  | token plain behind inductionHypothesis =>
    rw [List.cons_append, places_token plain, places_token plain, inductionHypothesis,
      List.cons_append]
  | @pair bracket inside tokens within behind insideHypothesis inductionHypothesis =>
    rw [List.cons_append, List.append_assoc, List.cons_append, places_opening, places_opening,
      insideHypothesis, insideHypothesis, places_closing, places_closing, inductionHypothesis,
      List.append_assoc]

/-- Inside a pair of brackets one bracket more is around the tokens, behind it none. -/
theorem Balanced.places_pair (within : Balanced tokens) (opened : List Bracket)
    (bracket : Bracket) (rest : List Token) :
    places opened (.opening bracket :: (tokens ++ .closing bracket :: rest)) =
      places (bracket :: opened) tokens ++ places opened rest := by
  rw [places_opening, within.places_append, places_closing]

theorem Balanced.places_enclosed (within : Balanced tokens) (opened : List Bracket)
    (bracket : Bracket) :
    places opened (.opening bracket :: (tokens ++ [.closing bracket])) =
      places (bracket :: opened) tokens :=
  (within.places_pair opened bracket []).trans (List.append_nil _)

/-- Brackets that are open in front of tokens are around all of them. -/
theorem Balanced.suffix_of_mem_places (balanced : Balanced tokens) {place : Place}
    (member : place ∈ places opened tokens) : opened <:+ place.brackets := by
  induction balanced generalizing opened with
  | nil => cases member
  | token plain behind inductionHypothesis =>
    rw [places_token plain] at member
    rcases List.mem_cons.1 member with rfl | listed
    · exact List.suffix_refl _
    · exact inductionHypothesis listed
  | @pair bracket inside rest within behind insideHypothesis inductionHypothesis =>
    rw [within.places_pair] at member
    rcases List.mem_append.1 member with inner | outer
    · exact (List.suffix_cons _ _).trans (insideHypothesis inner)
    · exact inductionHypothesis outer

theorem uncontrolled_append (found others : List Place) :
    uncontrolled (found ++ others) = uncontrolled found ++ uncontrolled others :=
  List.filter_append found others

/-- Outside total control no token between the brackets is left out. -/
theorem uncontrolled_token (token : Token) (plain : token.isBracket = false)
    (free : .totalControl ∉ opened) (rest : List Token) :
    uncontrolled (places opened (token :: rest)) =
      ⟨opened, token⟩ :: uncontrolled (places opened rest) := by
  rw [places_token plain]
  exact List.filter_cons_of_pos (decide_eq_true free)

theorem Balanced.uncontrolled_eq_nil (balanced : Balanced tokens)
    (controlled : .totalControl ∈ opened) : uncontrolled (places opened tokens) = [] := by
  refine List.filter_eq_nil_iff.2 fun place member counted => ?_
  exact of_decide_eq_true counted ((balanced.suffix_of_mem_places member).subset controlled)

/-! ## Names with brackets and timers -/

/-- The number of hops of a neighbour bracket. -/
def Bracket.hops? : Bracket → Option Nat
  | neighbour hops => some hops
  | _ => none

/-- A name, the brackets around it and the timers behind it. -/
structure Occurrence where
  name : String
  /-- The innermost bracket first. -/
  brackets : List Bracket
  /-- The timers in front of the next name. -/
  timers : List Seconds
deriving DecidableEq, Repr

/-- The timers in front of the first name. -/
def timersAhead : List Place → List Seconds
  | [] => []
  | place :: rest =>
    match place.token with
    | .name _ => []
    | .timer seconds => seconds :: timersAhead rest
    | _ => timersAhead rest

/-- The names from left to right. -/
def occurrences : List Place → List Occurrence
  | [] => []
  | place :: rest =>
    match place.token with
    | .name text => ⟨text, place.brackets, timersAhead rest⟩ :: occurrences rest
    | _ => occurrences rest

/-- Give the last name further timers. -/
def delayLast (timers : List Seconds) : List Occurrence → List Occurrence
  | [] => []
  | [last] => [{ last with timers := last.timers ++ timers }]
  | first :: rest => first :: delayLast timers rest

theorem delayLast_cons (timers : List Seconds) (first : Occurrence) {rest : List Occurrence}
    (more : rest ≠ []) : delayLast timers (first :: rest) = first :: delayLast timers rest := by
  cases rest with
  | nil => contradiction
  | cons second rest => rfl

theorem delayLast_concat (timers : List Seconds) (front : List Occurrence) (last : Occurrence) :
    delayLast timers (front ++ [last]) =
      front ++ [{ last with timers := last.timers ++ timers }] := by
  induction front with
  | nil => rfl
  | cons first rest inductionHypothesis =>
    rw [List.cons_append, delayLast_cons, inductionHypothesis, List.cons_append]
    exact List.append_ne_nil_of_right_ne_nil _ (List.cons_ne_nil _ _)

theorem delayLast_nil (given : List Occurrence) : delayLast [] given = given := by
  induction given with
  | nil => rfl
  | cons first rest inductionHypothesis =>
    cases rest with
    | nil => simp [delayLast]
    | cons second more => exact congrArg (first :: ·) inductionHypothesis

variable {found others : List Place}

/-- Timers stand in front of the first name of two parts if the first part has no name. -/
theorem timersAhead_append (found others : List Place) :
    timersAhead (found ++ others) =
      timersAhead found ++ if (occurrences found).isEmpty then timersAhead others else [] := by
  induction found with
  | nil => rfl
  | cons place rest inductionHypothesis =>
    rcases place with ⟨brackets, token⟩
    cases token with
    | name text => rfl
    | timer seconds => exact congrArg (seconds :: ·) inductionHypothesis
    | opening bracket => exact inductionHypothesis
    | closing bracket => exact inductionHypothesis
    | unlessSign => exact inductionHypothesis
    | orSign => exact inductionHypothesis

/-- The timers in front of the first name of the second part are those of the last name of
the first one. -/
theorem occurrences_append (found others : List Place) :
    occurrences (found ++ others) =
      delayLast (timersAhead others) (occurrences found) ++ occurrences others := by
  induction found with
  | nil => rfl
  | cons place rest inductionHypothesis =>
    rcases place with ⟨brackets, token⟩
    cases token with
    | name text =>
      change ⟨text, brackets, timersAhead (rest ++ others)⟩ :: occurrences (rest ++ others) =
        delayLast (timersAhead others) (⟨text, brackets, timersAhead rest⟩ :: occurrences rest) ++
          occurrences others
      rw [timersAhead_append, inductionHypothesis]
      -- Without a further name in the first part the timers are those of this one.
      cases occurrences rest with
      | nil => rfl
      | cons second more => simp [delayLast_cons]
    | timer seconds => exact inductionHypothesis
    | opening bracket => exact inductionHypothesis
    | closing bracket => exact inductionHypothesis
    | unlessSign => exact inductionHypothesis
    | orSign => exact inductionHypothesis

/-- The plant that the innermost neighbour bracket leads to, the home plant without one. -/
def Site.plantWithin? (site : Site) (brackets : List Bracket) : Option String :=
  match brackets.findSome? Bracket.hops? with
  | some hops => site.adjacency.neighbour? site.home hops
  | none => some site.home

/-- A leaf says what the name says from which it comes. -/
structure Mirrors (site : Site) (occurrence : Occurrence) (value : Reference) : Prop where
  token : value.token = occurrence.name
  placed : site.plantWithin? occurrence.brackets = some value.plant
  reversed : value.reversed = true ↔ site.column ≠ .routeLock ∧ .paren ∈ occurrence.brackets
  subject : value.subjectToUnlock = true ↔ .unlock ∈ occurrence.brackets
  timed : value.timer = occurrence.timers.getLast?

/-- The items have the names in the places as leaves, one by one and in order, and no timer
stands in front of the first one. -/
structure Mirrored (site : Site) (found : List Place) (items : List Tree) : Prop where
  names : List.Forall₂ (Mirrors site) (occurrences found) (Condition.leavesOf items)
  timeless : timersAhead found = []

/-- The scope of a phrase says what the brackets around it say, and none of them is total
control. -/
structure Scope.Fits (site : Site) (opened : List Bracket) (scope : Scope) : Prop where
  placed : site.plantWithin? opened = some scope.plant
  reversed : scope.reversed = true ↔ site.column ≠ .routeLock ∧ .paren ∈ opened
  subject : scope.subjectToUnlock = true ↔ .unlock ∈ opened
  uncontrolled : .totalControl ∉ opened

/-! ## Scopes and brackets -/

theorem Site.scope_fits (site : Site) : site.scope.Fits site [] where
  placed := rfl
  reversed := ⟨fun turned => (Bool.false_ne_true turned).elim, fun inside => by cases inside.2⟩
  subject := ⟨fun subject => (Bool.false_ne_true subject).elim, fun inside => by cases inside⟩
  uncontrolled := List.not_mem_nil

namespace Scope.Fits

theorem group (fits : scope.Fits site opened) : scope.Fits site (.group :: opened) where
  placed := fits.placed
  reversed := by simpa using fits.reversed
  subject := by simpa using fits.subject
  uncontrolled := by simpa using fits.uncontrolled

theorem neighbour (fits : scope.Fits site opened) {hops : Nat} {plant : String}
    (found : site.adjacency.neighbour? site.home hops = some plant) :
    Scope.Fits site (.neighbour hops :: opened) { scope with plant := plant } where
  placed := found
  reversed := by simpa using fits.reversed
  subject := by simpa using fits.subject
  uncontrolled := by simpa using fits.uncontrolled

theorem unlock (fits : scope.Fits site opened) :
    Scope.Fits site (.unlock :: opened) { scope with subjectToUnlock := true } where
  placed := fits.placed
  reversed := by simpa using fits.reversed
  subject := by simp
  uncontrolled := by simpa using fits.uncontrolled

theorem reversed_paren (fits : scope.Fits site opened) (other : site.column ≠ .routeLock) :
    Scope.Fits site (.paren :: opened) { scope with reversed := true } where
  placed := fits.placed
  reversed := by simpa using other
  subject := by simpa using fits.subject
  uncontrolled := by simpa using fits.uncontrolled

theorem numbered_paren (fits : scope.Fits site opened) (routeLock : site.column = .routeLock) :
    scope.Fits site (.paren :: opened) where
  placed := fits.placed
  reversed := by simpa [routeLock] using fits.reversed
  subject := by simpa using fits.subject
  uncontrolled := by simpa using fits.uncontrolled

end Scope.Fits

/-! ## Leaves of regrouped items -/

theorem Groups.leaves_eq {tree : Tree} (grouped : Groups items tree) :
    tree.leaves = Condition.leavesOf items := by
  rcases group_eq_ok.1 (groups_iff.1 grouped) with ⟨_, rfl⟩
  exact Condition.leaves_conjunction items

theorem references_cell (site : Site) (items : List Tree) :
    (site.cell items).references = Condition.leavesOf items := by
  rw [Site.cell, Condition.leavesOf_eq]
  split
  · rfl
  · rw [Cell.references, Cell.trees, List.flatMap_singleton, Condition.leaves_conjunction,
      Condition.leavesOf_eq]

theorem Continues.leavesOf_eq {tree : Tree} {parts : List Tree} (continued : Continues tree parts) :
    Condition.leavesOf parts = tree.leaves := by
  cases continued with
  | disjunction => rfl
  | other different => exact List.append_nil _

theorem leavesOf_exception (left right : Tree) :
    Condition.leavesOf [.any [left, .not right]] = left.leaves ++ right.leaves := by
  simp [Condition.leavesOf, Condition.leaves]

theorem leavesOf_alternative (left : Tree) (parts : List Tree) :
    Condition.leavesOf [.any (left :: parts)] = left.leaves ++ Condition.leavesOf parts := by
  simp [Condition.leavesOf, Condition.leaves]

private theorem exists_concat_of_forall₂ {given : List Occurrence} {values : List Reference}
    {value : Reference} (names : List.Forall₂ (Mirrors site) given (values ++ [value])) :
    ∃ front last, given = front ++ [last] ∧ List.Forall₂ (Mirrors site) front values ∧
      Mirrors site last value := by
  have behind := List.forall₂_drop_append _ _ _ names
  rcases List.forall₂_cons_right_iff.1 behind with ⟨last, rest, mirrors, none, dropped⟩
  rw [List.forall₂_nil_right_iff.1 none] at dropped
  refine ⟨given.take values.length, last, ?_, List.forall₂_take_append _ _ _ names, mirrors⟩
  rw [← dropped, List.take_append_drop]

namespace Mirrored

variable {given : List Tree}

theorem regroup (mirrored : Mirrored site found items)
    (same : Condition.leavesOf given = Condition.leavesOf items) : Mirrored site found given := by
  refine ⟨?_, mirrored.timeless⟩
  rw [same]
  exact mirrored.names

theorem append (mirrored : Mirrored site found items) (behind : Mirrored site others given) :
    Mirrored site (found ++ others) (items ++ given) := by
  constructor
  · rw [occurrences_append, behind.timeless, delayLast_nil, Condition.leavesOf_append]
    exact List.rel_append mirrored.names behind.names
  · rw [timersAhead_append, mirrored.timeless, behind.timeless, ite_self, List.append_nil]

theorem append_sign (mirrored : Mirrored site found items) (behind : Mirrored site others given)
    (opened : List Bracket) {sign : Token} (operator : sign = .unlessSign ∨ sign = .orSign) :
    Mirrored site (found ++ ⟨opened, sign⟩ :: others) (items ++ given) := by
  refine mirrored.append ?_
  rcases operator with rfl | rfl
  · exact ⟨behind.names, behind.timeless⟩
  · exact ⟨behind.names, behind.timeless⟩

/-- A timer behind a name is the timer of its leaf. -/
theorem timer {value : Reference} (mirrored : Mirrored site found (items ++ [.leaf value]))
    (opened : List Bracket) (seconds : Seconds) :
    Mirrored site (found ++ [⟨opened, .timer seconds⟩])
      (items ++ [.leaf { value with timer := some seconds }]) := by
  rcases mirrored with ⟨names, timeless⟩
  rw [Condition.leavesOf_append] at names
  -- The last leaf is that of the last name, which therefore exists.
  rcases exists_concat_of_forall₂ names with ⟨front, last, whole, before, mirrors⟩
  constructor
  · rw [occurrences_append, whole, delayLast_concat, Condition.leavesOf_append, occurrences,
      occurrences, List.append_nil]
    refine List.rel_append before (.cons ?_ .nil)
    exact ⟨mirrors.token, mirrors.placed, mirrors.reversed, mirrors.subject,
      List.getLast?_concat.symm⟩
  · rw [timersAhead_append, timeless, whole]
    simp

end Mirrored

/-! ## Along the grammar -/

theorem Derives.balanced (derived : Derives site phrase scope tokens items) : Balanced tokens := by
  induction derived with
  | name token => exact .token rfl .nil
  | group inside nonempty inductionHypothesis => exact inductionHypothesis.enclosed _
  | totalControl inside inductionHypothesis => exact inductionHypothesis.enclosed _
  | neighbour found inside inductionHypothesis => exact inductionHypothesis.enclosed _
  | unlock inside inductionHypothesis => exact inductionHypothesis.enclosed _
  | reversed other inside inductionHypothesis => exact inductionHypothesis.enclosed _
  | numbered routeLock inside nonempty inductionHypothesis => exact inductionHypothesis.enclosed _
  | nothing => exact .nil
  | atom before last front inductionHypothesis => exact front.append inductionHypothesis
  | timer seconds before inductionHypothesis =>
    exact inductionHypothesis.append (.token rfl .nil)
  | operand whole inductionHypothesis => exact inductionHypothesis
  | exception before first behind second front inductionHypothesis =>
    exact front.append (.token rfl inductionHypothesis)
  | alternative before first behind second continued front inductionHypothesis =>
    exact front.append (.token rfl inductionHypothesis)

/-- The items of a phrase mirror the names in it, with the brackets around them. -/
theorem Derives.mirrored (derived : Derives site phrase scope tokens items)
    (fits : scope.Fits site opened) :
    Mirrored site (uncontrolled (places opened tokens)) items := by
  induction derived generalizing opened with
  | name token =>
    rw [uncontrolled_token (.name token) rfl fits.uncontrolled]
    refine ⟨.cons ?_ .nil, rfl⟩
    exact ⟨rfl, fits.placed, fits.reversed, fits.subject, rfl⟩
  | group inside nonempty inductionHypothesis =>
    rw [inside.balanced.places_enclosed]
    exact inductionHypothesis fits.group
  | totalControl inside inductionHypothesis =>
    rw [inside.balanced.places_enclosed, inside.balanced.uncontrolled_eq_nil List.mem_cons_self]
    exact ⟨.nil, rfl⟩
  | neighbour found inside inductionHypothesis =>
    rw [inside.balanced.places_enclosed]
    exact inductionHypothesis (fits.neighbour found)
  | unlock inside inductionHypothesis =>
    rw [inside.balanced.places_enclosed]
    exact inductionHypothesis fits.unlock
  | reversed other inside inductionHypothesis =>
    rw [inside.balanced.places_enclosed]
    exact inductionHypothesis (fits.reversed_paren other)
  | numbered routeLock inside nonempty inductionHypothesis =>
    rw [inside.balanced.places_enclosed]
    exact (inductionHypothesis (fits.numbered_paren routeLock)).regroup (List.append_nil _)
  | nothing => exact ⟨.nil, rfl⟩
  | atom before last front inductionHypothesis =>
    rw [before.balanced.places_append, uncontrolled_append]
    exact (front fits).append (inductionHypothesis fits)
  | timer seconds before inductionHypothesis =>
    rw [before.balanced.places_append, uncontrolled_append,
      uncontrolled_token (.timer seconds) rfl fits.uncontrolled]
    exact (inductionHypothesis fits).timer opened seconds
  | operand whole inductionHypothesis => exact inductionHypothesis fits
  | exception before first behind second front inductionHypothesis =>
    rw [before.balanced.places_append, uncontrolled_append,
      uncontrolled_token .unlessSign rfl fits.uncontrolled]
    refine ((front fits).append_sign (inductionHypothesis fits) opened (.inl rfl)).regroup ?_
    rw [leavesOf_exception, first.leaves_eq, second.leaves_eq, Condition.leavesOf_append]
  | alternative before first behind second continued front inductionHypothesis =>
    rw [before.balanced.places_append, uncontrolled_append,
      uncontrolled_token .orSign rfl fits.uncontrolled]
    refine ((front fits).append_sign (inductionHypothesis fits) opened (.inr rfl)).regroup ?_
    rw [leavesOf_alternative, first.leaves_eq, continued.leavesOf_eq, second.leaves_eq,
      Condition.leavesOf_append]

/-- In a parsed cell the brackets pair up, and the leaves mirror the names outside total
control one by one and in order: each one has the name as its token, is reversed and subject
to unlocking as the brackets around the name say, stands for the plant that the innermost
neighbour bracket leads to, and has the last timer in front of the next such name. -/
theorem leaves_mirror_names {site : Site} {text : String} {cell : Cell}
    (parsed : parse site text = .ok (some cell)) :
    ∃ tokens, tokenize text = .ok tokens ∧ Balanced tokens ∧
      List.Forall₂ (Mirrors site) (occurrences (uncontrolled (places [] tokens)))
        cell.references := by
  rcases parse_eq_ok.1 parsed with ⟨tokens, tokenized, said⟩
  rcases parseTokens_eq_ok.1 said with ⟨items, reads, meaning⟩
  have derived := reads_to_end_iff_derives.1 reads
  rcases says_some_iff.1 meaning with ⟨_, rfl⟩
  refine ⟨tokens, tokenized, derived.balanced, ?_⟩
  rw [references_cell]
  exact (derived.mirrored site.scope_fits).names

/-- Nested brackets, names in total control and two timers of one name. -/
def bracketedText : String :=
  "((9T 但5秒)) [ ｢(1T) 2T｣ 但30秒 [[3T]] ] 但40秒 4T ((5T)) 但50秒 但60秒 又は 6T 但 7T"

/-- The names of the text outside total control. -/
def bracketedNames : List Occurrence :=
  [⟨"1T", [.paren, .unlock, .neighbour 1], []⟩, ⟨"2T", [.unlock, .neighbour 1], [30]⟩,
    ⟨"3T", [.neighbour 2, .neighbour 1], [40]⟩, ⟨"4T", [], [50, 60]⟩, ⟨"6T", [], []⟩,
    ⟨"7T", [], []⟩]

theorem bracketed_names_are_mirrored :
    ∃ cell, parse ⟨.line, "TH62", .directLock⟩ bracketedText = .ok (some cell) ∧
      List.Forall₂ (Mirrors ⟨.line, "TH62", .directLock⟩) bracketedNames cell.references := by
  have passed : (parse ⟨.line, "TH62", .directLock⟩ bracketedText).toOption.any
      Option.isSome = true := by
    decide +kernel
  have named : (tokenize bracketedText).toOption.map
      (fun tokens => occurrences (uncontrolled (places [] tokens))) = some bracketedNames := by
    decide +kernel
  rcases Fallible.exists_of_any passed with ⟨found, parsed, check⟩
  rcases Option.isSome_iff_exists.1 check with ⟨cell, rfl⟩
  rcases leaves_mirror_names parsed with ⟨tokens, tokenized, _, mirrored⟩
  rw [tokenized] at named
  refine ⟨cell, parsed, ?_⟩
  rw [← Option.some.inj named]
  exact mirrored

end Notation
end SignalBox
