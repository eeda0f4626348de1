import SignalBox.Notation.Printer
import SignalBox.Proofs.Shape

namespace SignalBox

/-!
# The tokens of a written cell

A condition of the shape that cells have can always be written, and its text splits into
tokens that follow the condition: names in their own brackets, conjunctions and
disjunctions in curly ones, the operators in between.  `Printer.tokens` lists them, and
`spells_of_node` connects them with the text, whatever stands behind it.

One thing in the list does not follow the condition.  Where an exception is made for a
name without brackets that begins as a timer does, the sign and the beginning of the name
are that timer.  The list says so too, so that the connection holds without exception.
-/

namespace Adjacency

variable {adjacency : Adjacency} {home target : String} {hops : Nat}

/-- The hops to a plant lead to it. -/
theorem neighbour?_of_hopsTo? (found : adjacency.hopsTo? home target = some hops) :
    adjacency.neighbour? home hops = some target := by
  rw [hopsTo?, Option.map_eq_some_iff] at found
  rcases found with ⟨index, position, rfl⟩
  rw [List.idxOf?, List.findIdx?_eq_some_iff_getElem] at position
  rcases position with ⟨inside, same, _⟩
  rw [neighbour?, List.getElem?_eq_getElem inside, eq_of_beq same]

theorem exists_hopsTo? (near : target ∈ adjacency.neighboursOf home) :
    ∃ hops, adjacency.hopsTo? home target = some (hops + 1) := by
  cases found : (adjacency.neighboursOf home).idxOf? target with
  | none => exact absurd near (List.idxOf?_eq_none_iff.1 found)
  | some index => exact ⟨index, by rw [hopsTo?, found]; rfl⟩

end Adjacency

namespace Notation
namespace Printer

/-- Tokens between the opening and the closing token of a bracket. -/
def enclosed (bracket : Bracket) (tokens : List Token) : List Token :=
  .opening bracket :: (tokens ++ [.closing bracket])

/-- A name in parentheses where it is reversed, as text. -/
def turned (value : Reference) : String :=
  if value.reversed then bracketed .paren value.token else value.token

def turnedTokens (value : Reference) : List Token :=
  if value.reversed then enclosed .paren [.name value.token] else [.name value.token]

/-- A name in corner brackets where it is subject to unlocking, as text. -/
def unlocked (value : Reference) : String :=
  if value.subjectToUnlock then bracketed .unlock (turned value) else turned value

def unlockedTokens (value : Reference) : List Token :=
  if value.subjectToUnlock then enclosed .unlock (turnedTokens value) else turnedTokens value

/-- A name in all of its brackets, as text. -/
def placed (adjacency : Adjacency) (home : String) (value : Reference) : Except Error String :=
  if value.plant = home then .ok (unlocked value)
  else
    match adjacency.hopsTo? home value.plant with
    | some hops => .ok (bracketed (.neighbour hops) (unlocked value))
    | none => .error (.unreachablePlant home value.plant)

def placedTokens (adjacency : Adjacency) (home : String) (value : Reference) : List Token :=
  if value.plant = home then unlockedTokens value
  else
    match adjacency.hopsTo? home value.plant with
    | some hops => enclosed (.neighbour hops) (unlockedTokens value)
    | none => unlockedTokens value

/-- A text with the timer of a name behind it. -/
def timed (value : Reference) (text : String) : String :=
  match value.timer with
  | some seconds => text ++ (Token.timer seconds).text
  | none => text

/-- The tokens of a name with its brackets and its timer. -/
def referenceTokens (adjacency : Adjacency) (home : String) (value : Reference) : List Token :=
  placedTokens adjacency home value ++ value.timer.toList.map .timer

/-- The name is written without any bracket. -/
def isBare (home : String) (value : Reference) : Bool :=
  value.plant == home && !value.subjectToUnlock && !value.reversed

/-- The timer that an exception sign takes from the name of the condition behind it, and
what is left of the name. -/
def swallowed? (home : String) : Tree → Option (Seconds × List Char)
  | .leaf value => if isBare home value then readTimer value.token.toList else none
  | _ => none

/-- The tokens of a text that is a name or nothing. -/
def nameTokens (text : List Char) : List Token :=
  if text.isEmpty then [] else [.name (String.ofList text)]

/-- The tokens of an exception, with those of the condition that is excepted. -/
def exceptionTokens (home : String) (part : Tree) (written : List Token) : List Token :=
  match swallowed? home part with
  | some (seconds, left) => .timer seconds :: (nameTokens left ++ written.tail)
  | none => .unlessSign :: written

/-- The sign in front of a further part of a disjunction.  An exception has its own. -/
def sign : Tree → List Token
  | .not _ => []
  | _ => [.orSign]

mutual

/-- The tokens of a condition inside a cell. -/
def tokens (adjacency : Adjacency) (home : String) : Tree → List Token
  | .leaf value => referenceTokens adjacency home value
  | .all parts => enclosed .group (tokensOf adjacency home parts)
  | .any parts => enclosed .group (joinedTokens adjacency home parts)
  | .not part => exceptionTokens home part (tokens adjacency home part)

/-- The tokens of several conditions from left to right. -/
def tokensOf (adjacency : Adjacency) (home : String) : List Tree → List Token
  | [] => []
  | part :: rest => tokens adjacency home part ++ tokensOf adjacency home rest

/-- The tokens of the parts of a disjunction. -/
def joinedTokens (adjacency : Adjacency) (home : String) : List Tree → List Token
  | [] => []
  | part :: rest => tokens adjacency home part ++ continuedTokens adjacency home rest

/-- The tokens of further parts of a disjunction, with a sign in front of each. -/
def continuedTokens (adjacency : Adjacency) (home : String) : List Tree → List Token
  | [] => []
  | part :: rest =>
    sign part ++ (tokens adjacency home part ++ continuedTokens adjacency home rest)

end

theorem tokensOf_eq (adjacency : Adjacency) (home : String) (parts : List Tree) :
    tokensOf adjacency home parts = parts.flatMap (tokens adjacency home) := by
  induction parts with
  | nil => rfl
  | cons part rest inductionHypothesis =>
    rw [tokensOf, inductionHypothesis, List.flatMap_cons]

/-! ## Names -/

variable {site : Site} {value : Reference}

theorem reference_eq (adjacency : Adjacency) (home : String) (value : Reference) :
    reference adjacency home value = (placed adjacency home value).map (timed value) := by
  rcases value with ⟨token, plant, reversed, subjectToUnlock, timer⟩
  simp only [reference, placed, unlocked, turned]
  split
  · cases timer <;> rfl
  · cases adjacency.hopsTo? home plant <;> cases timer <;> rfl

theorem toList_bracketed (bracket : Bracket) (text : String) :
    (bracketed bracket text).toList =
      bracket.openingChars ++ text.toList ++ bracket.closingChars := by
  simp [bracketed]

theorem bracketed_spells {bracket : Bracket} {text : String} {refused : List Char}
    {tokens : List Token} (inside : Spells refused text.toList tokens)
    (proper : bracket ≠ .neighbour 0)
    (apart : Begins (· ∉ bracket.openingRun) text.toList ∨ bracket.openingRun = [])
    (free : ∀ head ∈ bracket.closingChars.head?, head ∉ refused) :
    Spells bracket.closingRun (bracketed bracket text).toList (enclosed bracket tokens) := by
  rw [toList_bracketed]
  exact inside.wrap proper apart free

theorem turned_begins (within : value.Within site) :
    Begins (fun head => value.reversed = false ∧ isNameChar head = true ∨
      value.reversed = true ∧ head = '(') (turned value).toList := by
  cases reversed : value.reversed with
  | true =>
    rw [turned, reversed, if_pos rfl, toList_bracketed]
    exact ⟨_, _, rfl, .inr ⟨rfl, rfl⟩⟩
  | false =>
    rw [turned, reversed, if_neg Bool.false_ne_true]
    exact within.named.begins.mono fun head named => .inl ⟨rfl, named⟩

theorem unlocked_begins (within : value.Within site) :
    Begins (fun head =>
      value.subjectToUnlock = false ∧ value.reversed = false ∧ isNameChar head = true ∨
        value.reversed = true ∧ head = '(' ∨ value.subjectToUnlock = true ∧ head = '｢')
      (unlocked value).toList := by
  cases subject : value.subjectToUnlock with
  | true =>
    rw [unlocked, subject, if_pos rfl, toList_bracketed]
    exact ⟨_, _, rfl, .inr (.inr ⟨rfl, rfl⟩)⟩
  | false =>
    rw [unlocked, subject, if_neg Bool.false_ne_true]
    refine (turned_begins within).mono fun head begins => ?_
    rcases begins with straight | parens
    · exact .inl ⟨rfl, straight⟩
    · exact .inr (.inl parens)

/-- What must not stand behind a name in its inner brackets: a reversed one may end with a
parenthesis. -/
def turnedRefused (value : Reference) : List Char :=
  if value.reversed then [')'] else []

theorem turned_spells (within : value.Within site) :
    Spells (turnedRefused value) (turned value).toList (turnedTokens value) := by
  cases reversed : value.reversed with
  | true =>
    have apart : Begins (· ∉ Bracket.openingRun .paren) value.token.toList := by
      refine within.named.begins.mono fun head named listed => ?_
      rw [List.mem_singleton.1 listed] at named
      exact absurd named (by decide)
    rw [turned, turnedTokens, turnedRefused, reversed, if_pos rfl, if_pos rfl, if_pos rfl]
    have spelled := Spells.name within.named
    exact @bracketed_spells .paren _ _ _ spelled (by decide) (.inl apart) fun _ _ => List.not_mem_nil
  | false =>
    rw [turned, turnedTokens, turnedRefused, reversed, if_neg Bool.false_ne_true,
      if_neg Bool.false_ne_true, if_neg Bool.false_ne_true]
    exact .name within.named

/-- Closing another bracket than parentheses is possible behind a name in parentheses. -/
theorem turnedRefused_free {head : Char} (other : head ≠ ')') : head ∉ turnedRefused value := by
  rw [turnedRefused]
  split
  · exact fun listed => other (List.mem_singleton.1 listed)
  · exact List.not_mem_nil

theorem unlocked_spells (within : value.Within site) :
    Spells (turnedRefused value) (unlocked value).toList (unlockedTokens value) := by
  cases subject : value.subjectToUnlock with
  | true =>
    have free : ∀ head ∈ (Bracket.closingChars .unlock).head?, head ∉ turnedRefused value := by
      intro last closes
      cases closes
      exact turnedRefused_free (by decide)
    rw [unlocked, unlockedTokens, subject, if_pos rfl, if_pos rfl]
    have enclosing := bracketed_spells (turned_spells within) (by decide) (.inr rfl) free
    exact enclosing.mono (List.nil_subset _)
  | false =>
    rw [unlocked, unlockedTokens, subject, if_neg Bool.false_ne_true, if_neg Bool.false_ne_true]
    exact turned_spells within

/-- How a name with its brackets begins: bare, or with a bracket. -/
def OpensLike (site : Site) (value : Reference) (bare : Prop) (head : Char) : Prop :=
  isBare site.home value = true ∧ isNameChar head = true ∧ bare ∨
    isBare site.home value = false ∧ (value.reversed = true ∧ head = '(' ∨ head = '｢' ∨ head = '[')

/-- A name in its brackets spells its tokens, and unless it stands bare it begins with a
bracket. -/
theorem placed_spells (within : value.Within site) :
    ∃ text, placed site.adjacency site.home value = .ok text ∧
      Spells (']' :: turnedRefused value) text.toList
        (placedTokens site.adjacency site.home value) ∧
      Begins (OpensLike site value (text = value.token)) text.toList := by
  by_cases home : value.plant = site.home
  · refine ⟨unlocked value, if_pos home, ?_, ?_⟩
    · rw [placedTokens, if_pos home]
      exact (unlocked_spells within).mono (List.subset_cons_self _ _)
    · refine (unlocked_begins within).mono fun head begins => ?_
      rw [OpensLike, isBare, home]
      rcases begins with ⟨free, straight, named⟩ | ⟨reversed, parens⟩ | ⟨subject, corner⟩
      · refine .inl ⟨by simp [free, straight], named, ?_⟩
        simp [unlocked, turned, free, straight]
      · exact .inr ⟨by simp [reversed], .inl ⟨reversed, parens⟩⟩
      · exact .inr ⟨by simp [subject], .inr (.inl corner)⟩
  · rcases Adjacency.exists_hopsTo? (within.placed.resolve_left home) with ⟨hops, found⟩
    have apart : Begins (· ∉ Bracket.openingRun (.neighbour (hops + 1))) (unlocked value).toList := by
      refine (unlocked_begins within).mono fun head begins listed => ?_
      rw [List.mem_singleton.1 listed] at begins
      rcases begins with ⟨_, _, impossible⟩ | ⟨_, impossible⟩ | ⟨_, impossible⟩
      all_goals exact absurd impossible (by decide)
    have free : ∀ head ∈ (Bracket.closingChars (.neighbour (hops + 1))).head?,
        head ∉ turnedRefused value := by
      intro last closes
      cases closes
      exact turnedRefused_free (by decide)
    refine ⟨bracketed (.neighbour (hops + 1)) (unlocked value), ?_, ?_, ?_⟩
    · rw [placed, if_neg home, found]
    · rw [placedTokens, if_neg home, found]
      have enclosing := bracketed_spells (unlocked_spells within) (by simp) (.inl apart) free
      exact enclosing.mono (by simp [Bracket.closingRun])
    · rw [toList_bracketed]
      exact ⟨'[', _, rfl, .inr ⟨by simp [isBare, home], .inr (.inr rfl)⟩⟩

/-- The characters of the timer of a name. -/
def timerChars (value : Reference) : List Char :=
  match value.timer with
  | some seconds => (Token.timer seconds).chars
  | none => []

theorem toList_timed (value : Reference) (text : String) :
    (timed value text).toList = text.toList ++ timerChars value := by
  rw [timed, timerChars]
  cases value.timer with
  | none => exact (List.append_nil _).symm
  | some seconds => simp [Token.text]

/-- No name goes on in a timer, nor in what stands behind a missing one. -/
theorem timerChars_ends {rest refused : List Char} (free : exceptionChar ∉ refused)
    (ends : Ends refused rest) : Ends refused (timerChars value ++ rest) := by
  rw [timerChars]
  cases value.timer with
  | none => exact ends
  | some seconds => exact .cons (by decide) free

theorem timed_spells {text refused : List Char} {tokens : List Token} (free : exceptionChar ∉ refused)
    (before : Spells refused text tokens) :
    Spells refused (text ++ timerChars value) (tokens ++ value.timer.toList.map .timer) := by
  rw [timerChars]
  cases value.timer with
  | none => simpa using before
  | some seconds => exact (before.append_timer free seconds).mono (List.nil_subset _)

/-- A name with its brackets and its timer spells its tokens.  Unless it stands bare it
begins with a bracket. -/
theorem reference_spells (within : value.Within site) :
    ∃ text, reference site.adjacency site.home value = .ok text ∧
      Spells (']' :: turnedRefused value) text.toList
        (referenceTokens site.adjacency site.home value) ∧
      Begins (OpensLike site value (text.toList = value.token.toList ++ timerChars value))
        text.toList := by
  rcases placed_spells within with ⟨text, written, spells, begins⟩
  have free : exceptionChar ∉ ']' :: turnedRefused value :=
    List.not_mem_cons_of_ne_of_not_mem (by decide) (turnedRefused_free (by decide))
  refine ⟨timed value text, ?_, ?_, ?_⟩
  · rw [reference_eq, written]
    rfl
  · rw [toList_timed, referenceTokens]
    exact timed_spells free spells
  · rw [toList_timed]
    refine (begins.append _).mono fun head opens => ?_
    rcases opens with ⟨bare, named, rfl⟩ | bracketed
    · exact .inl ⟨bare, named, rfl⟩
    · exact .inr bracketed

theorem nameTokens_spells {text : List Char} (whole : splitName text = (text, [])) :
    Spells [] text (nameTokens text) := by
  cases text with
  | nil => exact .nil
  | cons head tail =>
    have spells := @Spells.name (String.ofList (head :: tail))
      (by rw [String.toList_ofList]; exact ⟨List.cons_ne_nil _ _, whole⟩)
    rw [String.toList_ofList] at spells
    exact spells

/-- Behind an exception sign a bare name spells its tokens, or those of the timer that it
begins with. -/
theorem exception_spells_of_bare {refused : List Char} (within : value.Within site)
    (bare : isBare site.home value = true) (free : exceptionChar ∉ refused) :
    Spells refused (exceptionChar :: ' ' :: (value.token.toList ++ timerChars value))
      (exceptionTokens site.home (.leaf value)
        (referenceTokens site.adjacency site.home value)) := by
  have alone : referenceTokens site.adjacency site.home value =
      [.name value.token] ++ value.timer.toList.map .timer := by
    simp only [isBare, Bool.and_eq_true, beq_iff_eq, Bool.not_eq_true'] at bare
    simp [referenceTokens, placedTokens, unlockedTokens, turnedTokens, bare]
  have timer := fun rest (ends : Ends refused rest) =>
    readTimer_append within.named (@timerChars_ends value _ _ free ends)
  rw [exceptionTokens, swallowed?, if_pos bare, alone]
  cases read : readTimer value.token.toList with
  | none =>
    have name := (Spells.name within.named).mono (List.nil_subset refused)
    refine Spells.unlessSign (timed_spells free name) ?_
    intro rest ends
    rw [List.append_assoc, timer rest ends, read]
    rfl
  | some found =>
    rcases found with ⟨seconds, left⟩
    -- The name is cut behind the seconds sign; what is left of it may be nothing.
    have whole := splitName_of_readTimer within.named.whole read
    have name := (nameTokens_spells whole).mono (List.nil_subset refused)
    refine Spells.swallowed (timed_spells free name) ?_
    intro rest ends
    rw [List.append_assoc, timer rest ends, read, List.append_assoc]
    rfl

/-! ## Conditions -/

end Printer

namespace Site

/-- What does not stand behind a condition inside a cell of the site.  Only in route-lock
columns, where no name is reversed, a closing parenthesis can. -/
def refused (site : Site) : List Char :=
  if site.column.hasAlternatives then [']'] else [')', ']']

theorem refused_free (site : Site) {head : Char} (other : head ∉ [')', ']']) :
    head ∉ site.refused := by
  rw [refused]
  split
  · exact fun listed => other (List.mem_cons_of_mem _ listed)
  · exact other

end Site

namespace Printer

/-- The text of a condition inside a cell of the site, and what it spells there: its
tokens, and those of an exception behind an exception sign.  In route-lock columns it
begins with no parenthesis. -/
structure IsPrinted (site : Site) (tree : Tree) (text : String) : Prop where
  written : node site.adjacency site.home tree = .ok text
  spells : Spells site.refused text.toList (tokens site.adjacency site.home tree)
  begins : Begins (fun head => site.column.hasAlternatives = true → head ≠ '(') text.toList
  excepted : Spells site.refused (exceptionChar :: ' ' :: text.toList)
    (exceptionTokens site.home tree (tokens site.adjacency site.home tree))

theorem isPrinted_leaf (within : value.Within site) : ∃ text, IsPrinted site (.leaf value) text := by
  rcases reference_spells within with ⟨text, written, spells, opens⟩
  have fewer : ']' :: turnedRefused value ⊆ site.refused := by
    cases numbered : site.column.hasAlternatives with
    | true =>
      rw [Site.refused, turnedRefused, numbered, within.straight numbered]
      decide
    | false =>
      rw [Site.refused, turnedRefused, numbered]
      split <;> decide
  refine ⟨text, written, spells.mono fewer, opens.mono ?_, ?_⟩
  · rintro head opening numbered rfl
    rcases opening with ⟨_, impossible, _⟩ | ⟨_, ⟨reversed, _⟩ | impossible | impossible⟩
    · exact absurd impossible (by decide)
    · rw [within.straight numbered] at reversed
      cases reversed
    · exact absurd impossible (by decide)
    · exact absurd impossible (by decide)
  · rcases opens with ⟨head, tail, spelled, ⟨bare, _, same⟩ | ⟨bracketed, opening⟩⟩
    · rw [same]
      exact exception_spells_of_bare within bare (site.refused_free (by decide))
    · -- A bracket behind the sign keeps the name from being read as a timer.
      rw [exceptionTokens, swallowed?, bracketed, if_neg Bool.false_ne_true]
      refine (spells.mono fewer).unlessSign fun rest ends => ?_
      rw [spelled]
      refine readTimer_cons_of_not_digit ?_ ?_
      all_goals rcases opening with ⟨_, rfl⟩ | rfl | rfl <;> decide

/-- A condition in curly brackets. -/
theorem isPrinted_braced {tree : Tree} {inner : String} {inside : List Token}
    (written : node site.adjacency site.home tree = .ok (braced inner))
    (listed : tokens site.adjacency site.home tree = enclosed .group inside)
    (compound : swallowed? site.home tree = none)
    (spells : Spells site.refused inner.toList inside) :
    IsPrinted site tree (braced inner) := by
  have free : ∀ head ∈ (Bracket.closingChars .group).head?, head ∉ site.refused := by
    intro head closes
    cases closes
    exact site.refused_free (by decide)
  have same : braced inner = bracketed .group inner := rfl
  have enclosing := bracketed_spells spells (by decide) (.inr rfl) free
  have spelled : (braced inner).toList = '\x7b' :: (inner.toList ++ ['\x7d']) := by
    rw [same, toList_bracketed]
    rfl
  refine ⟨written, ?_, ⟨_, _, spelled, fun _ => by decide⟩, ?_⟩
  · rw [listed]
    exact enclosing.mono (List.nil_subset _)
  · rw [exceptionTokens, compound, listed]
    refine (enclosing.mono (List.nil_subset _)).unlessSign fun rest ends => ?_
    rw [← same, spelled]
    exact readTimer_cons_of_not_digit (by decide) (by decide)

theorem nodes_eq (adjacency : Adjacency) (home : String) (parts : List Tree) :
    nodes adjacency home parts = parts.mapM (node adjacency home) := by
  induction parts with
  | nil => rfl
  | cons part rest inductionHypothesis =>
    rw [nodes, List.mapM_cons, inductionHypothesis]
    rfl

theorem toList_spaced (text next : String) (others : List String) :
    (spaced (text :: next :: others)).toList =
      text.toList ++ ' ' :: (spaced (next :: others)).toList := by
  simp [spaced]

/-- Texts with blanks between them spell what they spell one after another. -/
theorem spaced_spells {refused : List Char} (free : ' ' ∉ refused)
    {print : Tree → Except Error String} {write : Tree → List Token} {parts : List Tree}
    (nonempty : parts ≠ [])
    (each : ∀ part ∈ parts, ∃ text, print part = .ok text ∧
      Spells refused text.toList (write part)) :
    ∃ texts, parts.mapM print = .ok texts ∧
      Spells refused (spaced texts).toList (parts.flatMap write) := by
  induction parts with
  | nil => contradiction
  | cons part rest inductionHypothesis =>
    rcases each part List.mem_cons_self with ⟨text, written, spells⟩
    cases rest with
    | nil =>
      refine ⟨[text], ?_, ?_⟩
      · exact Fallible.mapM_eq_ok.2 (by rw [List.map_singleton, List.map_singleton, written])
      · rw [List.flatMap_singleton]
        exact spells
    | cons second more =>
      rcases inductionHypothesis (List.cons_ne_nil _ _)
        (fun other member => each other (List.mem_cons_of_mem _ member)) with
        ⟨texts, traversed, later⟩
      have mapped := Fallible.mapM_eq_ok.1 traversed
      cases texts with
      | nil => cases mapped
      | cons next others =>
        refine ⟨text :: next :: others, ?_, ?_⟩
        · exact Fallible.mapM_eq_ok.2 (by rw [List.map_cons, written, mapped]; rfl)
        · rw [toList_spaced, List.flatMap_cons]
          exact spells.append_blank free later

/-- Texts with blanks between them begin as the first one does. -/
theorem spaced_begins {allowed : Char → Prop} {text : String} (begins : Begins allowed text.toList)
    (others : List String) : Begins allowed (spaced (text :: others)).toList := by
  cases others with
  | nil => simpa [spaced] using begins
  | cons next more =>
    rw [toList_spaced]
    exact begins.append _

theorem toList_alternatives_append {written : List String} (nonempty : written ≠ [])
    (text : String) :
    (alternatives (written ++ [text])).toList =
      (alternatives written).toList ++ ' ' :: (orChars ++ ' ' :: text.toList) := by
  induction written with
  | nil => contradiction
  | cons first rest inductionHypothesis =>
    cases rest with
    | nil => simp [alternatives]
    | cons second more =>
      have later := inductionHypothesis (List.cons_ne_nil _ _)
      simp only [alternatives, List.cons_append, String.intercalate_cons_cons,
        String.toList_append, List.append_assoc] at later ⊢
      rw [later]

theorem ne_not_of_shaped {tree : Tree} (shaped : Shaped site tree) (part : Tree) :
    tree ≠ .not part := by
  rintro rfl
  cases shaped

/-- A part with others behind it, in a disjunction that is written up to it. -/
theorem disjunction_cons {part : Tree} {rest : List Tree} {text : String}
    (plain : Shaped site part) (others : rest ≠ [])
    (printed : node site.adjacency site.home part = .ok text) (written : List String) :
    disjunction site.adjacency site.home written (part :: rest) =
      disjunction site.adjacency site.home (written ++ [text]) rest := by
  cases rest with
  | nil => contradiction
  | cons next more =>
    cases plain <;> exact Fallible.bind_of_eq_ok printed _

theorem disjunction_last {part : Tree} {text : String} (plain : Shaped site part)
    (printed : node site.adjacency site.home part = .ok text) (written : List String) :
    disjunction site.adjacency site.home written [part] =
      .ok (alternatives (written ++ [text])) := by
  rw [disjunction, printed]
  · rfl
  · exact fun other => ne_not_of_shaped plain other.not
  · exact ne_not_of_shaped plain

theorem disjunction_exception {part : Tree} {text : String} {written : List String}
    (plain : Shaped site part) (nonempty : written ≠ [])
    (printed : node site.adjacency site.home part = .ok text) :
    disjunction site.adjacency site.home written [.not part] =
      .ok (alternatives written ++ " " ++ String.singleton exceptionChar ++ " " ++ text) := by
  have some : written.isEmpty = false := by
    cases written with
    | nil => contradiction
    | cons first rest => rfl
  rw [disjunction, some, printed]
  · rfl
  · exact ne_not_of_shaped plain

/-- The last part of a disjunction: a condition, or one that is excepted. -/
inductive IsEnding (site : Site) : Tree → Prop
  | part {part : Tree} {text : String} (shaped : Shaped site part)
    (printed : IsPrinted site part text) : IsEnding site part
  | exception {part : Tree} {text : String} (shaped : Shaped site part)
    (printed : IsPrinted site part text) : IsEnding site (.not part)

theorem sign_of_shaped {part : Tree} (shaped : Shaped site part) : sign part = [.orSign] := by
  cases shaped <;> rfl

theorem alternatives_append_spells {part : Tree} {written : List String} {text : String}
    {before : List Token} (nonempty : written ≠ [])
    (earlier : Spells site.refused (alternatives written).toList before)
    (shaped : Shaped site part) (printed : IsPrinted site part text) :
    Spells site.refused (alternatives (written ++ [text])).toList
      (before ++ (sign part ++ tokens site.adjacency site.home part)) := by
  rw [toList_alternatives_append nonempty, sign_of_shaped shaped]
  exact earlier.append_blank (site.refused_free (by decide)) printed.spells.orSign

/-- The parts of a disjunction are written one behind the other, each behind its sign. -/
theorem disjunction_spells {front : List Tree} {last : Tree} {written : List String}
    {before : List Token} (nonempty : written ≠ [])
    (earlier : Spells site.refused (alternatives written).toList before)
    (each : ∀ part ∈ front, Shaped site part ∧ ∃ text, IsPrinted site part text)
    (ending : IsEnding site last) :
    ∃ text, disjunction site.adjacency site.home written (front ++ [last]) = .ok text ∧
      Spells site.refused text.toList
        (before ++ continuedTokens site.adjacency site.home (front ++ [last])) := by
  induction front generalizing written before with
  | nil =>
    rw [List.nil_append, continuedTokens, continuedTokens, List.append_nil]
    cases ending with
    | part shaped printed =>
      refine ⟨_, disjunction_last shaped printed.written written, ?_⟩
      exact alternatives_append_spells nonempty earlier shaped printed
    | exception shaped printed =>
      refine ⟨_, disjunction_exception shaped nonempty printed.written, ?_⟩
      rw [sign, List.nil_append, tokens]
      have spells := earlier.append_blank (site.refused_free (by decide)) printed.excepted
      simpa using spells
  | cons part rest inductionHypothesis =>
    rcases each part List.mem_cons_self with ⟨shaped, text, printed⟩
    have behind : rest ++ [last] ≠ [] := List.append_ne_nil_of_right_ne_nil _ (List.cons_ne_nil _ _)
    have longer : written ++ [text] ≠ [] :=
      List.append_ne_nil_of_right_ne_nil _ (List.cons_ne_nil _ _)
    rcases inductionHypothesis longer (alternatives_append_spells nonempty earlier shaped printed)
      (fun other member => each other (List.mem_cons_of_mem _ member)) with ⟨whole, same, spells⟩
    refine ⟨whole, ?_, ?_⟩
    · rw [List.cons_append, disjunction_cons shaped behind printed.written]
      exact same
    · rw [List.cons_append, continuedTokens]
      rw [List.append_assoc, List.append_assoc] at spells
      exact spells

theorem isPrinted_any {front : List Tree} {last : Tree} (nonempty : front ≠ [])
    (each : ∀ part ∈ front, Shaped site part ∧ ∃ text, IsPrinted site part text)
    (ending : IsEnding site last) : ∃ text, IsPrinted site (.any (front ++ [last])) text := by
  cases front with
  | nil => contradiction
  | cons first rest =>
    rcases each first List.mem_cons_self with ⟨shaped, text, printed⟩
    have alone : alternatives [text] = text := by simp [alternatives]
    have earlier : Spells site.refused (alternatives [text]).toList
        (tokens site.adjacency site.home first) := by
      rw [alone]
      exact printed.spells
    rcases disjunction_spells (List.cons_ne_nil _ _) earlier
      (fun other member => each other (List.mem_cons_of_mem _ member)) ending with
      ⟨inner, written, spells⟩
    refine ⟨braced inner, isPrinted_braced ?_ rfl rfl spells⟩
    have behind : rest ++ [last] ≠ [] := List.append_ne_nil_of_right_ne_nil _ (List.cons_ne_nil _ _)
    rw [node, List.cons_append, disjunction_cons shaped behind printed.written, List.nil_append,
      written]
    rfl

/-- The parts of a conjunction with blanks between them. -/
theorem nodes_spells {parts : List Tree} (nonempty : parts ≠ [])
    (each : ∀ part ∈ parts, ∃ text, IsPrinted site part text) :
    ∃ texts, nodes site.adjacency site.home parts = .ok texts ∧
      Spells site.refused (spaced texts).toList (tokensOf site.adjacency site.home parts) ∧
      Begins (fun head => site.column.hasAlternatives = true → head ≠ '(')
        (spaced texts).toList := by
  have spelled : ∀ part ∈ parts, ∃ text, node site.adjacency site.home part = .ok text ∧
      Spells site.refused text.toList (tokens site.adjacency site.home part) := by
    intro part member
    rcases each part member with ⟨text, printed⟩
    exact ⟨text, printed.written, printed.spells⟩
  rcases spaced_spells (site.refused_free (by decide)) nonempty spelled with
    ⟨texts, traversed, spells⟩
  rw [nodes_eq, tokensOf_eq]
  refine ⟨texts, traversed, spells, ?_⟩
  have mapped := Fallible.mapM_eq_ok.1 traversed
  cases parts with
  | nil => contradiction
  | cons part rest =>
    rcases each part List.mem_cons_self with ⟨text, printed⟩
    cases texts with
    | nil => cases mapped
    | cons first others =>
      rw [List.map_cons, List.map_cons, List.cons.injEq, printed.written] at mapped
      cases mapped.1
      exact spaced_begins printed.begins others

/-- Every condition of the shape can be written. -/
theorem isPrinted_of_shaped {tree : Tree} (shaped : Shaped site tree) :
    ∃ text, IsPrinted site tree text := by
  induction shaped with
  | leaf within => exact isPrinted_leaf within
  | all nonempty shaped flat inductionHypothesis =>
    rcases nodes_spells nonempty inductionHypothesis with ⟨texts, written, spells, _⟩
    refine ⟨braced (spaced texts), isPrinted_braced ?_ rfl rfl spells⟩
    rw [node, written]
    rfl
  | any nonempty shaped ending closed parts last =>
    rcases last with ⟨text, printed⟩
    exact isPrinted_any nonempty (fun part member => ⟨shaped part member, parts part member⟩)
      (.part ending printed)
  | exception nonempty shaped ending parts last =>
    rcases last with ⟨text, printed⟩
    exact isPrinted_any nonempty (fun part member => ⟨shaped part member, parts part member⟩)
      (.exception ending printed)

/-! ## Cells -/

/-- The tokens of a numbered alternative. -/
def numberedTokens (adjacency : Adjacency) (home : String) : Tree → List Token
  | .all parts => enclosed .paren (tokensOf adjacency home parts)
  | tree => tokens adjacency home tree

/-- The tokens of a whole cell. -/
def cellTokens (adjacency : Adjacency) (home : String) : Cell → List Token
  | .clause (.all parts) => tokensOf adjacency home parts
  | .clause tree => tokens adjacency home tree
  | .alternatives trees => trees.flatMap (numberedTokens adjacency home)

/-- A numbered alternative, which ends with a parenthesis if it is a conjunction. -/
theorem numbered_spells {tree : Tree} (numbers : site.column.hasAlternatives = true)
    (shaped : Shaped site tree) :
    ∃ text, numbered site.adjacency site.home tree = .ok text ∧
      Spells [')', ']'] text.toList (numberedTokens site.adjacency site.home tree) := by
  have fewer : site.refused ⊆ [')', ']'] := by
    rw [Site.refused, numbers]
    decide
  rcases isPrinted_of_shaped shaped with ⟨text, printed⟩
  cases shaped with
  | leaf within => exact ⟨text, printed.written, printed.spells.mono fewer⟩
  | any nonempty shaped ending closed => exact ⟨text, printed.written, printed.spells.mono fewer⟩
  | exception nonempty shaped ending => exact ⟨text, printed.written, printed.spells.mono fewer⟩
  | all nonempty shaped flat =>
    rcases nodes_spells nonempty (fun part member => isPrinted_of_shaped (shaped part member)) with
      ⟨texts, written, spells, begins⟩
    have apart : Begins (· ∉ Bracket.openingRun .paren) (spaced texts).toList :=
      begins.mono fun head other listed => other numbers (List.mem_singleton.1 listed)
    have free : ∀ head ∈ (Bracket.closingChars .paren).head?, head ∉ site.refused := by
      intro closing found
      cases found
      rw [Site.refused, numbers]
      decide
    refine ⟨bracketed .paren (spaced texts), ?_, ?_⟩
    · rw [numbered, written]
      rfl
    · exact (bracketed_spells spells (by decide) (.inl apart) free).mono (by decide)

/-- Every cell of the shape of its site can be written, and its text splits into the tokens
of the cell. -/
theorem tokenize_render {cell : Cell} (shaped : cell.IsShaped site) :
    ∃ text, render site.adjacency site.home cell = .ok text ∧
      tokenize text = .ok (cellTokens site.adjacency site.home cell) := by
  cases cell with
  | alternatives trees =>
    rcases shaped with ⟨numbers, nonempty, shaped⟩
    rcases @spaced_spells [')', ']'] (by decide) _ _ _ nonempty
      (fun tree member => numbered_spells numbers (shaped tree member)) with
      ⟨texts, written, spells⟩
    refine ⟨spaced texts, ?_, spells.scan_eq⟩
    rw [render, written]
    rfl
  | clause tree =>
    rcases shaped with ⟨_, shaped⟩
    rcases isPrinted_of_shaped shaped with ⟨text, printed⟩
    cases shaped with
    | leaf within => exact ⟨text, printed.written, printed.spells.scan_eq⟩
    | any nonempty shaped ending closed => exact ⟨text, printed.written, printed.spells.scan_eq⟩
    | exception nonempty shaped ending => exact ⟨text, printed.written, printed.spells.scan_eq⟩
    | all nonempty shaped flat =>
      rcases nodes_spells nonempty (fun part member => isPrinted_of_shaped (shaped part member))
        with ⟨texts, written, spells, _⟩
      refine ⟨spaced texts, ?_, spells.scan_eq⟩
      rw [render, written]
      rfl

end Printer

end Notation
end SignalBox
