import SignalBox.Notation.Parser
import SignalBox.Proofs.Fallible

namespace SignalBox
namespace Notation

/-!
# Reading a sequence

`Reads` says which items a successful sequence gives, rule by rule as the tokens come:
one rule for the end, one for a closing token and one for every other kind of token.  The
sequence succeeds exactly with what `Reads` relates, so that everything about parsed cells
can be shown by induction on the rules.

In the other direction, a list of tokens that is put together from smaller ones is read by
putting together what these give.  `Contributes` says of tokens that they add certain
items to whatever sequence they stand in, and `Yields` that they are all that a sequence
holds.  Operators take the whole sequence, so they only ever yield.
-/

/-- The sequence with the items `items` behind it reads the tokens up to its end: it has
the items `read` then, and the tokens `remaining` are left. -/
inductive Reads (site : Site) :
    Scope → List Tree → List Token → List Tree → List Token → Prop
  | ending {scope : Scope} {items : List Tree} : Reads site scope items [] items []
  | closing {scope : Scope} {items : List Tree} (bracket : Bracket) (rest : List Token) :
    Reads site scope items (.closing bracket :: rest) items (.closing bracket :: rest)
  | name {scope : Scope} {items read : List Tree} {rest remaining : List Token}
    {token : String}
    (behind : Reads site scope (items ++ [.leaf (scope.reference token)]) rest read remaining) :
    Reads site scope items (.name token :: rest) read remaining
  | timer {scope : Scope} {items timed read : List Tree} {rest remaining : List Token}
    {seconds : Seconds} (set : setTimer seconds items = .ok timed)
    (behind : Reads site scope timed rest read remaining) :
    Reads site scope items (.timer seconds :: rest) read remaining
  | unlessSign {scope : Scope} {items operand : List Tree} {rest remaining : List Token}
    {left right : Tree} (before : group items = .ok left)
    (behind : Reads site scope [] rest operand remaining) (after : group operand = .ok right) :
    Reads site scope items (.unlessSign :: rest) [exception left right] remaining
  | orSign {scope : Scope} {items operand : List Tree} {rest remaining : List Token}
    {left right : Tree} (before : group items = .ok left)
    (behind : Reads site scope [] rest operand remaining) (after : group operand = .ok right) :
    Reads site scope items (.orSign :: rest) [alternative left right] remaining
  | bracket {scope inner : Scope} {items held contributed read : List Tree}
    {rest behind remaining : List Token} {bracket : Bracket}
    (entered : site.enter scope bracket = .ok inner)
    (inside : Reads site inner [] rest held (.closing bracket :: behind))
    (left : site.leave held bracket = .ok contributed)
    (outside : Reads site scope (items ++ contributed) behind read remaining) :
    Reads site scope items (.opening bracket :: rest) read remaining

variable {site : Site} {scope inner : Scope} {items read held given : List Tree}
  {tokens rest remaining : List Token} {bracket : Bracket}

theorem expect_eq_ok {expected : Token} {reading : Reading Unit tokens} :
    expect expected tokens = .ok reading ↔ tokens = expected :: reading.val.2 := by
  rcases reading with ⟨⟨⟨⟩, remaining⟩, short⟩
  cases tokens with
  | nil => simp [expect]
  | cons found rest =>
    rw [expect]
    split
    · next same => simp [same, Subtype.ext_iff]
    · next different => simp [different]

theorem expect_self (expected : Token) (rest : List Token) :
    expect expected (expected :: rest) = .ok ⟨((), rest), Nat.le_succ _⟩ :=
  if_pos rfl

theorem group_eq_ok {tree : Tree} :
    group items = .ok tree ↔ items ≠ [] ∧ .conjunction items = tree := by
  cases items with
  | nil => simp [group]
  | cons item rest => simp [group]

/-- A bracket passes its items on, except that total control drops them and parentheses of
a route-lock column make one alternative of them. -/
theorem leave_cases {contributed : List Tree} (left : site.leave held bracket = .ok contributed) :
    contributed = held ∨ contributed = [] ∨
      site.column.hasAlternatives = true ∧ held ≠ [] ∧ contributed = [.all held] := by
  cases bracket with
  | neighbour hops => cases left; exact .inl rfl
  | unlock => cases left; exact .inl rfl
  | totalControl => cases left; exact .inr (.inl rfl)
  | group =>
    rw [Site.leave] at left
    split at left
    · cases left
    · cases left
      exact .inl rfl
  | paren =>
    cases numbered : site.column.hasAlternatives with
    | true =>
      simp only [Site.leave, numbered, if_true] at left
      split at left
      · cases left
      · next nonempty =>
        cases left
        exact .inr (.inr ⟨rfl, fun none => nonempty (List.isEmpty_iff.2 none), rfl⟩)
    | false =>
      match held with
      | [] => simp [Site.leave, numbered] at left
      | [item] =>
        simp only [Site.leave, numbered] at left
        cases left
        exact .inl rfl
      | first :: second :: rest => simp [Site.leave, numbered] at left

/-- What a sequence gives is read by the rules. -/
theorem reads_of_sequence {reading : Reading (List Tree) tokens}
    (result : sequence site scope items tokens = .ok reading) :
    Reads site scope items tokens reading.val.1 reading.val.2 := by
  induction scope, items, tokens using sequence.induct with
  | case1 scope items =>
    rw [sequence] at result
    cases result
    exact .ending
  | case2 scope items bracket rest =>
    rw [sequence] at result
    cases result
    exact .closing bracket rest
  | case3 scope items token rest inductionHypothesis =>
    rw [sequence, Fallible.bind_eq_ok] at result
    rcases result with ⟨found, behind, same⟩
    cases same
    exact .name (inductionHypothesis behind)
  | case4 scope items seconds rest inductionHypothesis =>
    simp only [sequence, Fallible.bind_eq_ok] at result
    rcases result with ⟨timed, set, found, behind, same⟩
    cases same
    exact .timer set (inductionHypothesis timed behind)
  | case5 scope items rest inductionHypothesis =>
    simp only [sequence, Fallible.bind_eq_ok] at result
    rcases result with ⟨left, before, found, behind, right, after, same⟩
    cases same
    exact .unlessSign before (inductionHypothesis behind) after
  | case6 scope items rest inductionHypothesis =>
    simp only [sequence, Fallible.bind_eq_ok] at result
    rcases result with ⟨left, before, found, behind, right, after, same⟩
    cases same
    exact .orSign before (inductionHypothesis behind) after
  | case7 scope items bracket rest inside outside =>
    simp only [sequence, Fallible.bind_eq_ok] at result
    rcases result with ⟨inner, entered, ⟨⟨held, behind⟩, short⟩, nested, ⟨⟨⟨⟩, remaining⟩, shorter⟩,
      closed, contributed, left, found, later, same⟩
    cases same
    -- The expected token is the one behind the items, so the rule for brackets applies.
    have closing : behind = .closing bracket :: remaining := expect_eq_ok.1 closed
    have holding : Reads site inner [] rest held behind := inside inner nested
    rw [closing] at holding
    exact .bracket entered holding left
      (outside held behind short remaining shorter contributed later)

/-- What the rules read is what the sequence gives. -/
theorem Reads.sequence_eq (reads : Reads site scope items tokens read remaining) :
    ∃ reading, sequence site scope items tokens = .ok reading ∧ reading.val = (read, remaining) := by
  induction reads with
  | ending => exact ⟨_, by rw [sequence], rfl⟩
  | closing bracket rest => exact ⟨_, by rw [sequence], rfl⟩
  | name behind inductionHypothesis =>
    rcases inductionHypothesis with ⟨found, later, same⟩
    exact ⟨_, by rw [sequence, Fallible.bind_of_eq_ok later], same⟩
  | timer set behind inductionHypothesis =>
    rcases inductionHypothesis with ⟨found, later, same⟩
    exact ⟨_, by rw [sequence, Fallible.bind_of_eq_ok set, Fallible.bind_of_eq_ok later], same⟩
  | unlessSign before behind after inductionHypothesis =>
    rcases inductionHypothesis with ⟨⟨⟨operand, remaining⟩, short⟩, later, same⟩
    cases same
    refine ⟨⟨([_], _), Nat.le_succ_of_le short⟩, ?_, rfl⟩
    rw [sequence, Fallible.bind_of_eq_ok before, Fallible.bind_of_eq_ok later]
    exact Fallible.bind_of_eq_ok after _
  | orSign before behind after inductionHypothesis =>
    rcases inductionHypothesis with ⟨⟨⟨operand, remaining⟩, short⟩, later, same⟩
    cases same
    refine ⟨⟨([_], _), Nat.le_succ_of_le short⟩, ?_, rfl⟩
    rw [sequence, Fallible.bind_of_eq_ok before, Fallible.bind_of_eq_ok later]
    exact Fallible.bind_of_eq_ok after _
  | bracket entered inside left outside nested later =>
    rcases nested with ⟨⟨⟨held, behind⟩, short⟩, nested, same⟩
    cases same
    rcases later with ⟨found, later, same⟩
    refine ⟨⟨found.val, ?_⟩, ?_, same⟩
    · exact Nat.le_succ_of_le (Nat.le_trans found.property (Nat.le_of_succ_le short))
    rw [sequence, Fallible.bind_of_eq_ok entered, Fallible.bind_of_eq_ok nested]
    refine (Fallible.bind_of_eq_ok (expect_self _ _) _).trans ?_
    exact (Fallible.bind_of_eq_ok left _).trans (Fallible.bind_of_eq_ok later _)

/-- The cell whose sequence has certain items. -/
def Site.cell (site : Site) (items : List Tree) : Cell :=
  if site.column.hasAlternatives then .alternatives items else .clause (.conjunction items)

/-- A list of tokens says a cell exactly if it reads up to its end as the items of the
cell. -/
theorem parseTokens_eq_ok_some {cell : Cell} :
    parseTokens site tokens = .ok (some cell) ↔
      ∃ items, items ≠ [] ∧ Reads site site.scope [] tokens items [] ∧ site.cell items = cell := by
  simp only [parseTokens, Fallible.bind_eq_ok]
  constructor
  · rintro ⟨⟨⟨items, rest⟩, short⟩, result, said⟩
    cases rest with
    | cons token rest => cases said
    | nil =>
      cases items with
      | nil => cases said
      | cons item others =>
        exact ⟨item :: others, List.cons_ne_nil _ _, reads_of_sequence result,
          Option.some.inj (Except.ok.inj said)⟩
  · rintro ⟨items, nonempty, reads, same⟩
    rcases reads.sequence_eq with ⟨⟨⟨others, rest⟩, short⟩, result, found⟩
    cases found
    refine ⟨_, result, ?_⟩
    cases items with
    | nil => contradiction
    | cons item others => exact congrArg (fun cell => Except.ok (some cell)) same

theorem parse_eq_ok {text : String} {found : Option Cell} :
    parse site text = .ok found ↔
      ∃ tokens, tokenize text = .ok tokens ∧ parseTokens site tokens = .ok found :=
  Fallible.bind_eq_ok

/-! ## Tokens put together -/

/-- In every sequence of the scope the tokens add the items `given` to those before them. -/
def Contributes (site : Site) (scope : Scope) (tokens : List Token) (given : List Tree) : Prop :=
  ∀ items rest read remaining, Reads site scope (items ++ given) rest read remaining →
    Reads site scope items (tokens ++ rest) read remaining

/-- Up to the end or a closing token the tokens read as the items `given`. -/
def Yields (site : Site) (scope : Scope) (tokens : List Token) (given : List Tree) : Prop :=
  ∀ rest, (∀ token ∈ rest.head?, token.isClosing = true) →
    Reads site scope [] (tokens ++ rest) given rest

namespace Contributes

theorem nil : Contributes site scope [] [] := by
  intro items rest read remaining behind
  rw [List.append_nil] at behind
  exact behind

theorem append {others : List Token} {more : List Tree}
    (first : Contributes site scope tokens given) (second : Contributes site scope others more) :
    Contributes site scope (tokens ++ others) (given ++ more) := by
  intro items rest read remaining behind
  rw [List.append_assoc]
  apply first
  apply second
  rw [List.append_assoc]
  exact behind

/-- Tokens of several conditions, one behind the other. -/
theorem flatMap {parts : List Tree} {write : Tree → List Token} {give : Tree → List Tree}
    (each : ∀ part ∈ parts, Contributes site scope (write part) (give part)) :
    Contributes site scope (parts.flatMap write) (parts.flatMap give) := by
  induction parts with
  | nil => exact nil
  | cons part rest inductionHypothesis =>
    have later := inductionHypothesis fun other member => each other (List.mem_cons_of_mem _ member)
    exact (each part List.mem_cons_self).append later

theorem name (token : String) :
    Contributes site scope [.name token] [.leaf (scope.reference token)] := by
  intro items rest read remaining behind
  exact .name behind

/-- A timer is set to the last object that the tokens before it contribute. -/
theorem timerBehind {value : Reference} (given : List Tree) (seconds : Seconds)
    (before : Contributes site scope tokens (given ++ [.leaf value])) :
    Contributes site scope (tokens ++ [.timer seconds])
      (given ++ [.leaf { value with timer := some seconds }]) := by
  intro items rest read remaining behind
  rw [List.append_assoc]
  apply before
  refine .timer ?_ behind
  rw [← List.append_assoc, ← List.append_assoc]
  simp [setTimer]

theorem timer {value : Reference} (seconds : Seconds)
    (before : Contributes site scope tokens [.leaf value]) :
    Contributes site scope (tokens ++ [.timer seconds])
      [.leaf { value with timer := some seconds }] :=
  timerBehind [] seconds before

/-- A bracket contributes what is left of the items inside. -/
theorem wrap {contributed : List Tree} (entered : site.enter scope bracket = .ok inner)
    (inside : Yields site inner tokens held) (left : site.leave held bracket = .ok contributed) :
    Contributes site scope (.opening bracket :: (tokens ++ [.closing bracket])) contributed := by
  intro items rest read remaining behind
  rw [List.cons_append, List.append_assoc]
  refine .bracket entered (inside _ ?_) left behind
  intro token first
  cases first
  rfl

theorem yields (contributes : Contributes site scope tokens given) :
    Yields site scope tokens given := by
  intro rest stops
  apply contributes
  cases rest with
  | nil => exact .ending
  | cons token rest =>
    cases token with
    | closing bracket => exact .closing bracket rest
    | opening bracket => cases stops _ rfl
    | timer seconds => cases stops _ rfl
    | unlessSign => cases stops _ rfl
    | orSign => cases stops _ rfl
    | name text => cases stops _ rfl

end Contributes

namespace Yields

variable {others : List Token} {more : List Tree} {left right : Tree}

theorem exception (before : Contributes site scope tokens given) (first : group given = .ok left)
    (behind : Yields site scope others more) (second : group more = .ok right) :
    Yields site scope (tokens ++ .unlessSign :: others) [Notation.exception left right] := by
  intro rest stops
  rw [List.append_assoc]
  exact before _ _ _ _ (.unlessSign first (behind rest stops) second)

theorem alternative (before : Contributes site scope tokens given) (first : group given = .ok left)
    (behind : Yields site scope others more) (second : group more = .ok right) :
    Yields site scope (tokens ++ .orSign :: others) [Notation.alternative left right] := by
  intro rest stops
  rw [List.append_assoc]
  exact before _ _ _ _ (.orSign first (behind rest stops) second)

/-- Tokens that are a whole cell. -/
theorem parseTokens_eq {cell : Cell} (yields : Yields site site.scope tokens given)
    (nonempty : given ≠ []) (same : site.cell given = cell) :
    parseTokens site tokens = .ok (some cell) := by
  have reads := yields [] fun token first => by cases first
  rw [List.append_nil] at reads
  exact parseTokens_eq_ok_some.2 ⟨given, nonempty, reads, same⟩

end Yields

end Notation
end SignalBox
