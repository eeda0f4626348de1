import SignalBox.Proofs.Reading

namespace SignalBox
namespace Notation

/-!
# The grammar of cells

`Derives` is the grammar in which cells are written, without a reader of tokens: it says
which tokens are a phrase in a scope, and which items the phrase stands for.  Nothing is
left over in it, no items are collected and no token is looked at before another one.
Every kind of bracket has its own rule, with its own scope inside and its own condition on
what it holds.

The reader gives what the grammar derives and refuses all else.  That it derives what is
read goes by induction on `Reads`, where the items collected so far are those of the operand
before the tokens.  That it reads what is derived goes by induction on the grammar, where
atoms and operands contribute to any sequence and a sequence is all that is read.
-/

/-- The phrases of a cell. -/
inductive Phrase where
  /-- A name, or a bracket with the sequence inside. -/
  | atom
  /-- Any number of atoms, each with the timers behind it. -/
  | operand
  /-- An operand that may be followed by an operator and a further sequence. -/
  | sequence

/-- What the items of an operand are together.  An operand without items is nothing. -/
inductive Groups : List Tree → Tree → Prop
  | single (item : Tree) : Groups [item] item
  | several (first second : Tree) (rest : List Tree) :
    Groups (first :: second :: rest) (.all (first :: second :: rest))

/-- The alternatives that the condition behind an or sign is. -/
inductive Continues : Tree → List Tree → Prop
  | disjunction (parts : List Tree) : Continues (.any parts) parts
  | other {tree : Tree} (different : ∀ parts, tree ≠ .any parts) : Continues tree [tree]

/-- The tokens are a phrase in the scope, and the items are what it stands for. -/
inductive Derives (site : Site) : Phrase → Scope → List Token → List Tree → Prop
  | name {scope : Scope} (token : String) :
    Derives site .atom scope [.name token] [.leaf (scope.reference token)]
  /-- Curly brackets pass on what they hold, and hold something. -/
  | group {scope : Scope} {tokens : List Token} {items : List Tree}
    (inside : Derives site .sequence scope tokens items) (nonempty : items ≠ []) :
    Derives site .atom scope (.opening .group :: (tokens ++ [.closing .group])) items
  /-- Total control stands for nothing. -/
  | totalControl {scope : Scope} {tokens : List Token} {items : List Tree}
    (inside : Derives site .sequence scope tokens items) :
    Derives site .atom scope (.opening .totalControl :: (tokens ++ [.closing .totalControl])) []
  /-- Square brackets move to the neighbour of the home plant that their number gives. -/
  | neighbour {scope : Scope} {tokens : List Token} {items : List Tree} {hops : Nat}
    {plant : String} (found : site.adjacency.neighbour? site.home hops = some plant)
    (inside : Derives site .sequence { scope with plant := plant } tokens items) :
    Derives site .atom scope
      (.opening (.neighbour hops) :: (tokens ++ [.closing (.neighbour hops)])) items
  | unlock {scope : Scope} {tokens : List Token} {items : List Tree}
    (inside : Derives site .sequence { scope with subjectToUnlock := true } tokens items) :
    Derives site .atom scope (.opening .unlock :: (tokens ++ [.closing .unlock])) items
  /-- Outside the route-lock column parentheses hold one item, which is reversed. -/
  | reversed {scope : Scope} {tokens : List Token} {item : Tree}
    (other : site.column ≠ .routeLock)
    (inside : Derives site .sequence { scope with reversed := true } tokens [item]) :
    Derives site .atom scope (.opening .paren :: (tokens ++ [.closing .paren])) [item]
  /-- In the route-lock column parentheses are one alternative, a conjunction even of a
  single item. -/
  | numbered {scope : Scope} {tokens : List Token} {items : List Tree}
    (routeLock : site.column = .routeLock)
    (inside : Derives site .sequence scope tokens items) (nonempty : items ≠ []) :
    Derives site .atom scope (.opening .paren :: (tokens ++ [.closing .paren])) [.all items]
  | nothing {scope : Scope} : Derives site .operand scope [] []
  | atom {scope : Scope} {front tokens : List Token} {items given : List Tree}
    (before : Derives site .operand scope front items)
    (last : Derives site .atom scope tokens given) :
    Derives site .operand scope (front ++ tokens) (items ++ given)
  /-- A timer is that of the last item, which is an object. -/
  | timer {scope : Scope} {front : List Token} {items : List Tree} {value : Reference}
    (seconds : Seconds) (before : Derives site .operand scope front (items ++ [.leaf value])) :
    Derives site .operand scope (front ++ [.timer seconds])
      (items ++ [.leaf { value with timer := some seconds }])
  | operand {scope : Scope} {tokens : List Token} {items : List Tree}
    (whole : Derives site .operand scope tokens items) :
    Derives site .sequence scope tokens items
  /-- The left operand holds or the right one does not. -/
  | exception {scope : Scope} {front tokens : List Token} {items others : List Tree}
    {left right : Tree} (before : Derives site .operand scope front items)
    (first : Groups items left) (behind : Derives site .sequence scope tokens others)
    (second : Groups others right) :
    Derives site .sequence scope (front ++ .unlessSign :: tokens) [.any [left, .not right]]
  /-- Alternatives on the right are further alternatives. -/
  | alternative {scope : Scope} {front tokens : List Token} {items others parts : List Tree}
    {left right : Tree} (before : Derives site .operand scope front items)
    (first : Groups items left) (behind : Derives site .sequence scope tokens others)
    (second : Groups others right) (continued : Continues right parts) :
    Derives site .sequence scope (front ++ .orSign :: tokens) [.any (left :: parts)]

/-- What a cell with the items of its sequence says. -/
inductive Says (site : Site) : List Tree → Option Cell → Prop
  | nothing : Says site [] none
  | alternatives {items : List Tree} (routeLock : site.column = .routeLock)
    (nonempty : items ≠ []) : Says site items (some (.alternatives items))
  | clause {items : List Tree} {tree : Tree} (other : site.column ≠ .routeLock)
    (grouped : Groups items tree) : Says site items (some (.clause tree))

/-- A sequence ends in front of the tokens: there are none, or the first one closes a
bracket. -/
def Stops (tokens : List Token) : Prop :=
  ∀ token ∈ tokens.head?, token.isClosing = true

variable {site : Site} {scope inner : Scope} {items read held contributed others : List Tree}
  {tokens front remaining : List Token} {bracket : Bracket} {left right tree : Tree}
  {phrase : Phrase}

/-! ## Operands and what cells say -/

theorem groups_iff : Groups items tree ↔ group items = .ok tree := by
  rw [group_eq_ok]
  constructor
  · intro grouped
    cases grouped with
    | single => exact ⟨List.cons_ne_nil _ _, rfl⟩
    | several => exact ⟨List.cons_ne_nil _ _, rfl⟩
  · rintro ⟨nonempty, rfl⟩
    match items with
    | [] => contradiction
    | [item] => exact .single item
    | first :: second :: rest => exact .several first second rest

theorem alternative_eq_of_continues (continued : Continues right items) (left : Tree) :
    alternative left right = .any (left :: items) := by
  cases continued with
  | disjunction => rfl
  | other different =>
    cases right with
    | any parts => exact absurd rfl (different parts)
    | leaf value => rfl
    | all parts => rfl
    | not part => rfl

theorem exists_continues (tree : Tree) : ∃ parts, Continues tree parts := by
  cases tree with
  | any parts => exact ⟨parts, .disjunction parts⟩
  | leaf value => exact ⟨_, .other nofun⟩
  | all parts => exact ⟨_, .other nofun⟩
  | not part => exact ⟨_, .other nofun⟩

theorem hasAlternatives_iff {column : LockColumn} :
    column.hasAlternatives = true ↔ column = .routeLock :=
  beq_iff_eq

theorem hasAlternatives_eq_false_iff {column : LockColumn} :
    column.hasAlternatives = false ↔ column ≠ .routeLock := by
  rw [← Bool.not_eq_true, hasAlternatives_iff]

/-- A nonempty sequence says the cell of its items. -/
theorem says_cell (nonempty : items ≠ []) : Says site items (some (site.cell items)) := by
  rw [Site.cell]
  split
  · next numbered => exact .alternatives (hasAlternatives_iff.1 numbered) nonempty
  · next other =>
    refine .clause (hasAlternatives_eq_false_iff.1 (Bool.eq_false_iff.2 other)) ?_
    exact groups_iff.2 (group_eq_ok.2 ⟨nonempty, rfl⟩)

theorem says_some_iff {cell : Cell} :
    Says site items (some cell) ↔ items ≠ [] ∧ site.cell items = cell := by
  constructor
  · intro said
    cases said with
    | alternatives routeLock nonempty =>
      exact ⟨nonempty, if_pos (hasAlternatives_iff.2 routeLock)⟩
    | clause other grouped =>
      rcases group_eq_ok.1 (groups_iff.1 grouped) with ⟨nonempty, rfl⟩
      refine ⟨nonempty, if_neg ?_⟩
      rw [hasAlternatives_iff]
      exact other
  · rintro ⟨nonempty, rfl⟩
    exact says_cell nonempty

theorem says_none_iff : Says site items none ↔ items = [] := by
  constructor
  · intro said
    cases said
    rfl
  · rintro rfl
    exact .nothing

/-! ## What is read is derived -/

/-- A bracket is an atom as its kind says. -/
theorem derives_bracket (entered : site.enter scope bracket = .ok inner)
    (inside : Derives site .sequence inner tokens held)
    (left : site.leave held bracket = .ok contributed) :
    Derives site .atom scope (.opening bracket :: (tokens ++ [.closing bracket])) contributed := by
  cases bracket with
  | totalControl =>
    cases entered
    cases left
    exact .totalControl inside
  | unlock =>
    cases entered
    cases left
    exact .unlock inside
  | neighbour hops =>
    cases left
    rw [Site.enter] at entered
    split at entered
    · next plant found =>
      cases entered
      exact .neighbour found inside
    · cases entered
  | group =>
    cases entered
    rw [Site.leave] at left
    split at left
    · cases left
    · next nonempty =>
      cases left
      exact .group inside fun empty => nonempty (List.isEmpty_iff.2 empty)
  | paren =>
    simp only [Site.enter, Site.leave] at entered left
    cases entered
    split at left
    · next numbered =>
      rw [if_pos numbered] at inside
      split at left
      · cases left
      · next nonempty =>
        cases left
        exact .numbered (hasAlternatives_iff.1 numbered) inside
          fun empty => nonempty (List.isEmpty_iff.2 empty)
    · next other =>
      rw [if_neg other] at inside
      split at left
      · cases left
        exact .reversed (hasAlternatives_eq_false_iff.1 (Bool.eq_false_iff.2 other)) inside
      · cases left

/-- A timer is set to the last item of an operand. -/
theorem derives_timer {seconds : Seconds} (before : Derives site .operand scope front items)
    (set : setTimer seconds items = .ok read) :
    Derives site .operand scope (front ++ [.timer seconds]) read := by
  rw [setTimer] at set
  split at set
  · next value last =>
    cases set
    rcases List.getLast?_eq_some_iff.1 last with ⟨given, rfl⟩
    rw [List.dropLast_concat]
    exact .timer seconds before
  · cases set

/-- What is read behind an operand is a sequence together with it. -/
theorem Reads.derives (reads : Reads site scope items tokens read remaining)
    (before : Derives site .operand scope front items) :
    ∃ consumed, tokens = consumed ++ remaining ∧
      Derives site .sequence scope (front ++ consumed) read ∧ Stops remaining := by
  induction reads generalizing front with
  | ending =>
    refine ⟨[], rfl, ?_, fun token first => by cases first⟩
    rw [List.append_nil]
    exact .operand before
  | closing bracket rest =>
    refine ⟨[], rfl, ?_, fun token first => by cases first; rfl⟩
    rw [List.append_nil]
    exact .operand before
  | @name scope items read rest remaining token behind inductionHypothesis =>
    rcases inductionHypothesis (.atom before (.name token)) with ⟨consumed, rfl, derived, stops⟩
    refine ⟨.name token :: consumed, rfl, ?_, stops⟩
    rw [List.append_assoc] at derived
    exact derived
  | @timer scope items timed read rest remaining seconds set behind inductionHypothesis =>
    rcases inductionHypothesis (derives_timer before set) with ⟨consumed, rfl, derived, stops⟩
    refine ⟨.timer seconds :: consumed, rfl, ?_, stops⟩
    rw [List.append_assoc] at derived
    exact derived
  | unlessSign first behind second inductionHypothesis =>
    -- An operator begins a new operand, so the one before it is complete.
    rcases inductionHypothesis .nothing with ⟨consumed, rfl, derived, stops⟩
    refine ⟨.unlessSign :: consumed, rfl, ?_, stops⟩
    exact .exception before (groups_iff.2 first) derived (groups_iff.2 second)
  | @orSign scope items operand rest remaining left right first behind second
      inductionHypothesis =>
    rcases inductionHypothesis .nothing with ⟨consumed, rfl, derived, stops⟩
    refine ⟨.orSign :: consumed, rfl, ?_, stops⟩
    rcases exists_continues right with ⟨parts, continued⟩
    rw [alternative_eq_of_continues continued]
    exact .alternative before (groups_iff.2 first) derived (groups_iff.2 second) continued
  | @bracket scope inner items held contributed read rest behind remaining bracket entered
      inside left outside nested later =>
    rcases nested .nothing with ⟨content, rfl, derivedInside, _⟩
    have atom := derives_bracket entered derivedInside left
    rcases later (.atom before atom) with ⟨consumed, rfl, derived, stops⟩
    refine ⟨.opening bracket :: (content ++ [.closing bracket]) ++ consumed, ?_, ?_, stops⟩
    · simp
    · rw [List.append_assoc] at derived
      exact derived

/-! ## What is derived is read -/

/-- How a reader takes the tokens of a phrase. -/
def Phrase.IsTaken (site : Site) : Phrase → Scope → List Token → List Tree → Prop
  | .atom => Contributes site
  | .operand => Contributes site
  | .sequence => Yields site

theorem Derives.isTaken (derived : Derives site phrase scope tokens items) :
    phrase.IsTaken site scope tokens items := by
  induction derived with
  | name token => exact Contributes.name token
  | group inside nonempty inductionHypothesis =>
    refine Contributes.wrap rfl inductionHypothesis ?_
    rw [Site.leave, if_neg (mt List.isEmpty_iff.1 nonempty)]
  | totalControl inside inductionHypothesis => exact Contributes.wrap rfl inductionHypothesis rfl
  | neighbour found inside inductionHypothesis =>
    refine Contributes.wrap ?_ inductionHypothesis rfl
    rw [Site.enter, found]
  | unlock inside inductionHypothesis => exact Contributes.wrap rfl inductionHypothesis rfl
  | reversed other inside inductionHypothesis =>
    have plain := hasAlternatives_eq_false_iff.2 other
    refine Contributes.wrap ?_ inductionHypothesis ?_
    · rw [Site.enter, plain, if_neg Bool.false_ne_true]
    · rw [Site.leave, plain, if_neg Bool.false_ne_true]
  | numbered routeLock inside nonempty inductionHypothesis =>
    have numbered := hasAlternatives_iff.2 routeLock
    refine Contributes.wrap ?_ inductionHypothesis ?_
    · rw [Site.enter, numbered, if_pos rfl]
    · simp only [Site.leave]
      rw [if_pos numbered, if_neg (mt List.isEmpty_iff.1 nonempty)]
  | nothing => exact Contributes.nil
  | atom before last front inductionHypothesis => exact Contributes.append front inductionHypothesis
  | timer seconds before inductionHypothesis =>
    exact Contributes.timerBehind _ seconds inductionHypothesis
  | operand whole inductionHypothesis => exact Contributes.yields inductionHypothesis
  | exception before first behind second contributes yields =>
    exact Yields.exception contributes (groups_iff.1 first) yields (groups_iff.1 second)
  | alternative before first behind second continued contributes yields =>
    rw [← alternative_eq_of_continues continued]
    exact Yields.alternative contributes (groups_iff.1 first) yields (groups_iff.1 second)

theorem Derives.reads (derived : Derives site .sequence scope tokens items)
    (stops : Stops remaining) : Reads site scope [] (tokens ++ remaining) items remaining :=
  derived.isTaken remaining stops

/-! ## The reader and the grammar -/

/-- A sequence is read up to the end or to a closing token exactly as the grammar derives
it. -/
theorem reads_iff_derives :
    Reads site scope [] tokens items remaining ↔
      ∃ consumed, tokens = consumed ++ remaining ∧
        Derives site .sequence scope consumed items ∧ Stops remaining := by
  constructor
  · intro reads
    exact reads.derives .nothing
  · rintro ⟨consumed, rfl, derived, stops⟩
    exact derived.reads stops

theorem reads_to_end_iff_derives :
    Reads site scope [] tokens items [] ↔ Derives site .sequence scope tokens items := by
  rw [reads_iff_derives]
  constructor
  · rintro ⟨consumed, rfl, derived, _⟩
    rw [List.append_nil]
    exact derived
  · intro derived
    exact ⟨tokens, (List.append_nil tokens).symm, derived, fun token first => by cases first⟩

theorem sequence_eq_ok_iff_reads :
    (∃ short, sequence site scope items tokens = .ok ⟨(read, remaining), short⟩) ↔
      Reads site scope items tokens read remaining := by
  constructor
  · rintro ⟨short, result⟩
    exact reads_of_sequence result
  · intro reads
    rcases reads.sequence_eq with ⟨⟨reading, short⟩, result, rfl⟩
    exact ⟨short, result⟩

/-- The grammar gives a list of tokens at most one meaning. -/
theorem Derives.unique (derived : Derives site .sequence scope tokens items)
    (other : Derives site .sequence scope tokens others) : items = others := by
  rcases sequence_eq_ok_iff_reads.2 (reads_to_end_iff_derives.2 derived) with ⟨short, result⟩
  rcases sequence_eq_ok_iff_reads.2 (reads_to_end_iff_derives.2 other) with ⟨shorter, same⟩
  rw [result] at same
  cases same
  rfl

theorem parseTokens_eq_ok_none :
    parseTokens site tokens = .ok none ↔ Reads site site.scope [] tokens [] [] := by
  simp only [parseTokens, Fallible.bind_eq_ok]
  constructor
  · rintro ⟨⟨⟨items, rest⟩, short⟩, result, said⟩
    cases rest with
    | cons token rest => cases said
    | nil =>
      cases items with
      | nil => exact reads_of_sequence result
      | cons item others => cases said
  · intro reads
    rcases reads.sequence_eq with ⟨⟨⟨items, rest⟩, short⟩, result, found⟩
    cases found
    exact ⟨_, result, rfl⟩

/-- A list of tokens is read as what the items of its sequence say. -/
theorem parseTokens_eq_ok {found : Option Cell} :
    parseTokens site tokens = .ok found ↔
      ∃ items, Reads site site.scope [] tokens items [] ∧ Says site items found := by
  cases found with
  | none =>
    simp only [parseTokens_eq_ok_none, says_none_iff]
    exact ⟨fun reads => ⟨[], reads, rfl⟩, fun ⟨_, reads, same⟩ => same ▸ reads⟩
  | some cell =>
    simp only [parseTokens_eq_ok_some, says_some_iff]
    constructor
    · rintro ⟨items, nonempty, reads, same⟩
      exact ⟨items, reads, nonempty, same⟩
    · rintro ⟨items, reads, nonempty, same⟩
      exact ⟨items, nonempty, reads, same⟩

/-- The reader accepts exactly the grammar, and with what the grammar says.  In every scope
it takes a derived sequence, and it stops at the end or at a closing token; and a list of
tokens is a cell exactly if the whole of it is a sequence in the scope of the site.  Every
other list of tokens is refused. -/
theorem cells_are_read_by_their_grammar (site : Site) (tokens : List Token) :
    (∀ scope items remaining,
      (∃ short, sequence site scope [] tokens = .ok ⟨(items, remaining), short⟩) ↔
        ∃ consumed, tokens = consumed ++ remaining ∧
          Derives site .sequence scope consumed items ∧ Stops remaining) ∧
      ∀ found, parseTokens site tokens = .ok found ↔
        ∃ items, Derives site .sequence site.scope tokens items ∧ Says site items found := by
  constructor
  · intro scope items remaining
    rw [sequence_eq_ok_iff_reads, reads_iff_derives]
  · intro found
    simp only [parseTokens_eq_ok, reads_to_end_iff_derives]

end Notation
end SignalBox
