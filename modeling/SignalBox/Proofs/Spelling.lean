import SignalBox.Notation.Lexer
import SignalBox.Proofs.Fallible
import SignalBox.Proofs.Lists

namespace SignalBox
namespace Notation

/-!
# Spelling tokens

Which tokens a text splits into depends on what stands behind it: a name goes on with
every character of a name, and a run of brackets with every further bracket.  `Spells`
says that a text splits into certain tokens wherever nothing goes on, and leaves the text
behind it alone.  Texts that spell tokens can be put together, with a blank, an operator or
brackets, and spell the tokens put together.

The exception sign is the one place where the text behind a token changes the token.  Where
digits and the seconds sign follow it, they are a timer, whether they were meant as the
beginning of a name or not.
-/

variable {text other rest : List Char} {tokens others more : List Token}
  {refused behind : List Char}

/-! ## Characters -/

private theorem le_iff_toNat_le {first second : Char} :
    first ≤ second ↔ first.toNat ≤ second.toNat :=
  Iff.rfl

theorem isSkipped_of_isNameChar {head : Char} (named : isNameChar head = true) :
    isSkipped head = false := by
  unfold isNameChar Char.isAlphanum Char.isAlpha Char.isUpper Char.isLower Char.isDigit at named
  simp only [Bool.and_eq_true, Bool.not_eq_true', Bool.or_eq_true, decide_eq_true_eq,
    le_iff_toNat_le, GE.ge, UInt32.le_iff_toNat_le] at named
  rcases named with ⟨⟨_, apart⟩, ranges⟩
  rw [isSkipped, apart, Bool.or_false, ← Bool.not_eq_true]
  intro blank
  simp only [Text.isBlank, Text.blankRuns, List.any_cons, List.any_nil, Bool.or_eq_true,
    Bool.and_eq_true, decide_eq_true_eq] at blank
  have same : head.val.toNat = head.toNat := rfl
  rw [same] at ranges
  simp at ranges blank
  omega

theorem isBlank_of_isSkipped {head : Char} (kept : isSkipped head = false) :
    Text.isBlank head = false :=
  (Bool.or_eq_false_iff.1 kept).1

theorem isNameChar_of_isDigit {head : Char} (digit : head.isDigit = true) :
    isNameChar head = true := by
  have apart : ∀ other : Char, other.isDigit = false → head ≠ other := by
    rintro other no rfl
    rw [digit] at no
    cases no
  simp [isNameChar, separators, exceptionChar, Char.isAlphanum, digit, apart]

/-! ## Names -/

/-- A text that is one name from its beginning to its end. -/
structure IsName (text : List Char) : Prop where
  nonempty : text ≠ []
  whole : splitName text = (text, [])

/-- The text has a first character, and something holds of it. -/
def Begins (allowed : Char → Prop) (text : List Char) : Prop :=
  ∃ head tail, text = head :: tail ∧ allowed head

theorem Begins.append {allowed : Char → Prop} (begins : Begins allowed text) (other : List Char) :
    Begins allowed (text ++ other) := by
  rcases begins with ⟨head, tail, rfl, holds⟩
  exact ⟨head, tail ++ other, rfl, holds⟩

theorem Begins.mono {allowed more : Char → Prop} (begins : Begins allowed text)
    (wider : ∀ head, allowed head → more head) : Begins more text := by
  rcases begins with ⟨head, tail, same, holds⟩
  exact ⟨head, tail, same, wider head holds⟩

/-- No name goes on in the text, and it begins with none of the refused characters. -/
def Ends (refused rest : List Char) : Prop :=
  ∀ head ∈ rest.head?, isNameChar head = false ∧ head ∉ refused

theorem splitName_append_self (text : List Char) :
    (splitName text).1 ++ (splitName text).2 = text := by
  induction text with
  | nil => rfl
  | cons head rest inductionHypothesis =>
    rw [splitName]
    split
    · rfl
    · exact congrArg (head :: ·) inductionHypothesis

/-- The or sign begins a text only if its two characters do. -/
theorem orChars_isPrefixOf_cons {head : Char} :
    orChars.isPrefixOf (head :: text) = true ↔ head = '又' ∧ text.head? = some 'は' := by
  cases text with
  | nil => simp [orChars, List.isPrefixOf]
  | cons second rest =>
    rw [orChars, List.isPrefixOf, List.isPrefixOf, List.isPrefixOf, Bool.and_true,
      Bool.and_eq_true, beq_iff_eq, beq_iff_eq, List.head?_cons, Option.some.injEq,
      @eq_comm _ '又', @eq_comm _ 'は']

theorem splitName_cons_eq {head : Char} {front back : List Char} :
    splitName (head :: text) = (head :: front, back) ↔
      isNameChar head = true ∧ ¬ (head = '又' ∧ text.head? = some 'は') ∧
        splitName text = (front, back) := by
  rw [splitName]
  split
  · next stops =>
    simp only [Bool.or_eq_true, Bool.not_eq_true', orChars_isPrefixOf_cons] at stops
    constructor
    · intro same
      cases same
    · rintro ⟨named, apart, _⟩
      rcases stops with unnamed | sign
      · rw [named] at unnamed
        cases unnamed
      · exact absurd sign apart
  · next goesOn =>
    simp only [Bool.or_eq_true, Bool.not_eq_true', orChars_isPrefixOf_cons, not_or,
      Bool.not_eq_false] at goesOn
    simp [goesOn.1, goesOn.2, Prod.ext_iff]

theorem IsName.begins (named : IsName text) : Begins (isNameChar · = true) text := by
  cases text with
  | nil => exact absurd rfl named.nonempty
  | cons head tail => exact ⟨head, tail, rfl, (splitName_cons_eq.1 named.whole).1⟩

theorem head_splitName_of_head {head : Char} (first : (splitName text).1.head? = some head) :
    text.head? = some head := by
  have whole := splitName_append_self text
  rw [← whole, List.head?_append, first]
  rfl

/-- What is split off as a name is a name from its beginning to its end. -/
theorem splitName_fst (text : List Char) :
    splitName (splitName text).1 = ((splitName text).1, []) := by
  induction text with
  | nil => rfl
  | cons head rest inductionHypothesis =>
    rw [splitName]
    split
    · rfl
    · next goesOn =>
      simp only [Bool.or_eq_true, Bool.not_eq_true', orChars_isPrefixOf_cons, not_or,
        Bool.not_eq_false] at goesOn
      refine splitName_cons_eq.2 ⟨goesOn.1, ?_, inductionHypothesis⟩
      rintro ⟨sign, first⟩
      exact goesOn.2 ⟨sign, head_splitName_of_head first⟩

/-- A name is split off whole in front of a text that does not continue it. -/
theorem splitName_append (whole : splitName text = (text, [])) (ends : Ends refused rest) :
    splitName (text ++ rest) = (text, rest) := by
  induction text with
  | nil =>
    cases rest with
    | nil => rfl
    | cons head tail =>
      have unnamed := (ends head rfl).1
      simp [splitName, unnamed]
  | cons head tail inductionHypothesis =>
    rcases splitName_cons_eq.1 whole with ⟨named, apart, later⟩
    have stays : ¬ (head = '又' ∧ (tail ++ rest).head? = some 'は') := by
      rintro ⟨sign, first⟩
      cases tail with
      | nil =>
        have unnamed := (ends 'は' first).1
        exact absurd unnamed (by decide)
      | cons second others => exact apart ⟨sign, first⟩
    exact splitName_cons_eq.2 ⟨named, stays, inductionHypothesis later⟩

/-- The end of a name is one too, as far as there is any left. -/
theorem splitName_of_append (whole : splitName (text ++ rest) = (text ++ rest, [])) :
    splitName rest = (rest, []) := by
  induction text with
  | nil => exact whole
  | cons head tail inductionHypothesis =>
    exact inductionHypothesis (splitName_cons_eq.1 whole).2.2

/-- A text is split off whole exactly if it holds only characters of names, and the or sign
nowhere. -/
theorem splitName_eq_self_iff :
    splitName text = (text, []) ↔
      (∀ letter ∈ text, isNameChar letter = true) ∧ ¬ orChars <:+: text := by
  induction text with
  | nil => simp [splitName, orChars]
  | cons head tail inductionHypothesis =>
    rw [splitName_cons_eq, inductionHypothesis, List.forall_mem_cons, List.infix_cons_iff, not_or,
      ← List.isPrefixOf_iff_prefix, orChars_isPrefixOf_cons, and_assoc, @and_left_comm (¬ _)]

/-! ## Single tokens -/

theorem scan_skip {head : Char} (skipped : isSkipped head = true) :
    scan (head :: rest) = scan rest := by
  rw [scan, if_pos skipped]

/-- Behind a token the rest of the text is split. -/
theorem scan_kept {head : Char} {token : Token} {remaining : List Char}
    (kept : isSkipped head = false) (read : readToken head rest = some (token, remaining)) :
    scan (head :: rest) = (scan remaining).map (token :: ·) := by
  rw [scan, if_neg (by rw [kept]; exact Bool.false_ne_true)]
  split
  · next failed =>
    rw [read] at failed
    cases failed
  · next found =>
    rw [read] at found
    cases found
    rfl

theorem scan_refused {head : Char} (kept : isSkipped head = false)
    (failed : readToken head rest = none) :
    scan (head :: rest) = .error (.unknownCharacter head) := by
  rw [scan, if_neg (by rw [kept]; exact Bool.false_ne_true)]
  split
  · rfl
  · next found =>
    rw [failed] at found
    cases found

theorem scan_token {head : Char} {token : Token} {remaining : List Char}
    (kept : isSkipped head = false) (read : readToken head rest = some (token, remaining))
    (later : scan remaining = .ok more) : scan (head :: rest) = .ok (token :: more) := by
  rw [scan_kept kept read, later]
  rfl

/-- A text splits into tokens, one behind the other. -/
inductive Splits : List Char → List Token → Prop
  | nil : Splits [] []
  | skip {head : Char} {rest : List Char} {tokens : List Token} (skipped : isSkipped head = true)
    (behind : Splits rest tokens) : Splits (head :: rest) tokens
  | token {head : Char} {rest remaining : List Char} {token : Token} {tokens : List Token}
    (kept : isSkipped head = false) (read : readToken head rest = some (token, remaining))
    (behind : Splits remaining tokens) : Splits (head :: rest) (token :: tokens)

theorem splits_of_scan (scanned : scan text = .ok tokens) : Splits text tokens := by
  induction text using scan.induct generalizing tokens with
  | case1 =>
    rw [scan] at scanned
    cases scanned
    exact .nil
  | case2 head rest skipped inductionHypothesis =>
    rw [scan_skip skipped] at scanned
    exact .skip skipped (inductionHypothesis scanned)
  | case3 head rest kept failed =>
    rw [scan_refused (Bool.eq_false_iff.2 kept) failed] at scanned
    cases scanned
  | case4 head rest kept token remaining read inductionHypothesis =>
    rw [scan_kept (Bool.eq_false_iff.2 kept) read, Fallible.map_eq_ok] at scanned
    rcases scanned with ⟨others, later, rfl⟩
    exact .token (Bool.eq_false_iff.2 kept) read (inductionHypothesis later)

theorem readToken_of_isNameChar {head : Char} (named : isNameChar head = true)
    (apart : ¬ (head = '又' ∧ rest.head? = some 'は')) :
    readToken head rest =
      some (.name (String.ofList (head :: (splitName rest).1)), (splitName rest).2) := by
  rw [← orChars_isPrefixOf_cons] at apart
  unfold readToken
  split
  all_goals try exact absurd named (by decide)
  rw [if_neg apart, if_pos named]

/-- A name that is split off is one from its beginning to its end. -/
theorem isName_of_readToken {head : Char} {name : String} {remaining : List Char}
    (read : readToken head rest = some (.name name, remaining)) : IsName name.toList := by
  unfold readToken at read
  split at read
  case h_10 =>
    split at read
    · cases read
    · next apart =>
      rw [orChars_isPrefixOf_cons] at apart
      split at read
      · next named =>
        cases read
        rw [String.toList_ofList]
        refine ⟨List.cons_ne_nil _ _, splitName_cons_eq.2 ⟨named, ?_, splitName_fst rest⟩⟩
        rintro ⟨sign, first⟩
        exact apart ⟨sign, head_splitName_of_head first⟩
      · cases read
  all_goals first
    | cases read
    | split at read <;> cases read

/-- Every name that a text splits into is one from its beginning to its end. -/
theorem isName_of_scan (scanned : scan text = .ok tokens) {name : String}
    (member : .name name ∈ tokens) : IsName name.toList := by
  have splits := splits_of_scan scanned
  clear scanned
  induction splits with
  | nil => cases member
  | skip skipped behind inductionHypothesis => exact inductionHypothesis member
  | token kept read behind inductionHypothesis =>
    rcases List.mem_cons.1 member with same | listed
    · rw [← same] at read
      exact isName_of_readToken read
    · exact inductionHypothesis listed

/-! ## Timers -/

/-- Whether a text is a timer does not depend on its leading blanks. -/
theorem readTimer_congr (same : Text.skipBlanks text = Text.skipBlanks other) :
    readTimer text = readTimer other := by
  rw [readTimer, readTimer, same]

theorem readTimer_blank (text : List Char) : readTimer (' ' :: text) = readTimer text := by
  refine readTimer_congr ?_
  rw [Text.skipBlanks, List.dropWhile_cons, if_pos (by decide)]
  rfl

theorem skipBlanks_cons {head : Char} (visible : Text.isBlank head = false) :
    Text.skipBlanks (head :: text) = head :: text := by
  rw [Text.skipBlanks, List.dropWhile_cons, visible]
  rfl

/-- What begins with another character than a digit or a blank is no timer. -/
theorem readTimer_cons_of_not_digit {head : Char} (visible : Text.isBlank head = false)
    (other : head.isDigit = false) : readTimer (head :: text) = none := by
  rw [readTimer, skipBlanks_cons visible]
  simp [other]

/-- The text begins with digits and the seconds sign behind them. -/
def beginsTimed (text : List Char) : Bool :=
  !(text.takeWhile Char.isDigit).isEmpty && (text.dropWhile Char.isDigit).head? == some secondsChar

/-- A timer is read only where digits and the seconds sign are. -/
theorem readTimer_eq_none (kept : ∀ head ∈ text.head?, isSkipped head = false)
    (untimed : beginsTimed text = false) : readTimer text = none := by
  have unread : Text.skipBlanks text = text := by
    cases text with
    | nil => rfl
    | cons head tail => exact skipBlanks_cons (isBlank_of_isSkipped (kept head rfl))
  rw [readTimer, unread]
  split
  · next mark rest found =>
    rw [beginsTimed, found] at untimed
    exact if_pos (by simpa [Decidable.imp_iff_not_or] using untimed)
  · rfl

/-- The timer that digits are in front of a text that begins with no further digit. -/
private def timerOf (digits : List Char) : List Char → Option (Seconds × List Char)
  | [] => none
  | mark :: behind =>
    if mark = secondsChar then
      (Text.Numeral.within 32 (Text.Numeral.value digits)).map fun seconds =>
        (UInt32.ofNat seconds, behind)
    else none

private theorem readTimer_digits {digits : List Char}
    (digit : ∀ letter ∈ digits, letter.isDigit = true)
    (ends : ∀ head ∈ rest.head?, head.isDigit = false) (nonempty : digits ≠ []) :
    readTimer (digits ++ rest) = timerOf digits rest := by
  have unread : Text.skipBlanks (digits ++ rest) = digits ++ rest := by
    cases digits with
    | nil => exact absurd rfl nonempty
    | cons head tail =>
      have named := isNameChar_of_isDigit (digit head List.mem_cons_self)
      exact skipBlanks_cons (isBlank_of_isSkipped (isSkipped_of_isNameChar named))
  have taken : rest.takeWhile Char.isDigit = [] := by
    cases rest with
    | nil => rfl
    | cons head tail => simp [ends head rfl]
  have dropped : rest.dropWhile Char.isDigit = rest := by
    cases rest with
    | nil => rfl
    | cons head tail => simp [ends head rfl]
  rw [readTimer, unread, List.takeWhile_append_of_pos digit, List.dropWhile_append_of_pos digit,
    taken, dropped, List.append_nil]
  cases rest with
  | nil => rfl
  | cons mark behind => simp [timerOf, nonempty]

theorem readTimer_write (seconds : Seconds) (rest : List Char) :
    readTimer (Text.Numeral.write seconds.toNat ++ secondsChar :: rest) = some (seconds, rest) := by
  rw [readTimer_digits (fun _ => Text.Numeral.isDigit_of_mem_write) ?_
    (Text.Numeral.write_ne_nil _)]
  · have fits : seconds.toNat < Nat.pow 2 32 := seconds.toNat_lt
    simp [timerOf, Text.Numeral.value_write, Text.Numeral.within, fits]
  · intro head first
    cases first
    decide

private theorem exists_digits (text : List Char) :
    ∃ digits tail, text = digits ++ tail ∧ (∀ letter ∈ digits, letter.isDigit = true) ∧
      ∀ head ∈ tail.head?, head.isDigit = false := by
  induction text with
  | nil => exact ⟨[], [], rfl, by simp, by simp⟩
  | cons head rest inductionHypothesis =>
    cases digit : head.isDigit with
    | false => exact ⟨[], head :: rest, rfl, by simp, by simpa using digit⟩
    | true =>
      rcases inductionHypothesis with ⟨digits, tail, rfl, more, stops⟩
      exact ⟨head :: digits, tail, rfl, List.forall_mem_cons.2 ⟨digit, more⟩, stops⟩

/-- A text without leading blanks that begins as a timer does so whatever stands behind it,
and what no name goes on in makes no timer of it. -/
theorem readTimer_append_of_visible (visible : Begins (Text.isBlank · = false) text)
    (ends : Ends refused rest) :
    readTimer (text ++ rest) =
      (readTimer text).map fun found => (found.1, found.2 ++ rest) := by
  rcases exists_digits text with ⟨digits, tail, rfl, digit, stops⟩
  cases digits with
  | nil =>
    rcases visible with ⟨head, tail, rfl, visible⟩
    simp only [List.nil_append, List.cons_append,
      readTimer_cons_of_not_digit visible (stops head rfl), Option.map_none]
  | cons first digits =>
    rw [readTimer_digits digit stops (List.cons_ne_nil _ _), List.append_assoc]
    cases tail with
    | cons mark behind =>
      have goesOn : ∀ head ∈ (mark :: behind ++ rest).head?, head.isDigit = false := by
        intro head same
        exact stops head same
      rw [readTimer_digits digit goesOn (List.cons_ne_nil _ _), List.cons_append, timerOf, timerOf]
      split
      · rw [Option.map_map]
        rfl
      · rfl
    | nil =>
      -- The digits are the whole text, and a name would go on with the seconds sign.
      have other : ∀ head ∈ rest.head?, head ≠ secondsChar := by
        rintro head first rfl
        exact absurd (ends secondsChar first).1 (by decide)
      rw [List.nil_append, readTimer_digits digit ?_ (List.cons_ne_nil _ _)]
      · cases rest with
        | nil => rfl
        | cons mark behind => exact if_neg (other mark rfl)
      · intro head first
        rw [← Bool.not_eq_true]
        intro another
        exact absurd (isNameChar_of_isDigit another) (by rw [(ends head first).1]; decide)

/-- A name that begins as a timer does so whatever stands behind it, and what stands
behind it makes no timer of a name. -/
theorem readTimer_append (whole : IsName text) (ends : Ends refused rest) :
    readTimer (text ++ rest) =
      (readTimer text).map fun found => (found.1, found.2 ++ rest) :=
  readTimer_append_of_visible
    (whole.begins.mono fun _ named => isBlank_of_isSkipped (isSkipped_of_isNameChar named)) ends

/-- What is left of a name behind the timer it begins with is a name, or nothing. -/
theorem splitName_of_readTimer {seconds : Seconds} (whole : splitName text = (text, []))
    (read : readTimer text = some (seconds, rest)) : splitName rest = (rest, []) := by
  rcases exists_digits text with ⟨digits, tail, rfl, digit, stops⟩
  cases tail with
  | nil =>
    cases digits with
    | nil => cases read
    | cons first digits =>
      rw [readTimer_digits digit stops (List.cons_ne_nil _ _)] at read
      cases read
  | cons mark behind =>
    cases digits with
    | nil =>
      have kept := isSkipped_of_isNameChar (splitName_cons_eq.1 whole).1
      rw [List.nil_append, readTimer_cons_of_not_digit (isBlank_of_isSkipped kept) (stops mark rfl)]
        at read
      cases read
    | cons first digits =>
      rw [readTimer_digits digit stops (List.cons_ne_nil _ _), timerOf] at read
      split at read
      · rcases Option.map_eq_some_iff.1 read with ⟨number, _, same⟩
        cases same
        exact (splitName_cons_eq.1 (splitName_of_append whole)).2.2
      · cases read

/-! ## Texts that spell tokens -/

/-- Where nothing goes on behind it, the text splits into the tokens and whatever stands
behind it is split as before. -/
def Spells (refused text : List Char) (tokens : List Token) : Prop :=
  ∀ rest more, Ends refused rest → scan rest = .ok more → scan (text ++ rest) = .ok (tokens ++ more)

theorem Ends.nil : Ends refused [] := by
  intro head first
  cases first

theorem Ends.cons {head : Char} (unnamed : isNameChar head = false) (free : head ∉ refused) :
    Ends refused (head :: rest) := by
  intro first same
  cases same
  exact ⟨unnamed, free⟩

/-- The characters with which the characters that open a bracket would go on. -/
def Bracket.openingRun : Bracket → List Char
  | neighbour _ => ['[']
  | paren => ['(']
  | _ => []

/-- The characters with which the characters that close a bracket would go on. -/
def Bracket.closingRun : Bracket → List Char
  | neighbour _ => [']']
  | paren => [')']
  | _ => []

theorem scan_opening {bracket : Bracket} (proper : bracket ≠ .neighbour 0)
    (apart : ∀ head ∈ rest.head?, head ∉ bracket.openingRun) (later : scan rest = .ok more) :
    scan (bracket.openingChars ++ rest) = .ok (.opening bracket :: more) := by
  cases bracket with
  | totalControl => exact scan_token (by decide) rfl later
  | group => exact scan_token (by decide) rfl later
  | unlock => exact scan_token (by decide) rfl later
  | paren =>
    have different : ∀ tail, rest ≠ '(' :: tail := by
      rintro tail rfl
      exact apart '(' rfl (List.mem_singleton.2 rfl)
    refine scan_token (by decide) ?_ later
    change readToken '(' rest = _
    rw [readToken]
    exact different
  | neighbour hops =>
    cases hops with
    | zero => contradiction
    | succ hops =>
      have run := Lists.takeWhile_replicate_append hops fun head first same =>
        apart head first (List.mem_singleton.2 same)
      refine scan_token (by decide) ?_ later
      change readToken '[' (List.replicate hops '[' ++ rest) = _
      rw [readToken, run.1, run.2, List.length_replicate]

theorem scan_closing {bracket : Bracket} (proper : bracket ≠ .neighbour 0)
    (apart : ∀ head ∈ rest.head?, head ∉ bracket.closingRun) (later : scan rest = .ok more) :
    scan (bracket.closingChars ++ rest) = .ok (.closing bracket :: more) := by
  cases bracket with
  | totalControl => exact scan_token (by decide) rfl later
  | group => exact scan_token (by decide) rfl later
  | unlock => exact scan_token (by decide) rfl later
  | paren =>
    have different : ∀ tail, rest ≠ ')' :: tail := by
      rintro tail rfl
      exact apart ')' rfl (List.mem_singleton.2 rfl)
    refine scan_token (by decide) ?_ later
    change readToken ')' rest = _
    rw [readToken]
    exact different
  | neighbour hops =>
    cases hops with
    | zero => contradiction
    | succ hops =>
      have run := Lists.takeWhile_replicate_append hops fun head first same =>
        apart head first (List.mem_singleton.2 same)
      refine scan_token (by decide) ?_ later
      change readToken ']' (List.replicate hops ']' ++ rest) = _
      rw [readToken, run.1, run.2, List.length_replicate]

/-- A closing bracket goes on with no name. -/
private theorem ends_closing {bracket : Bracket} (proper : bracket ≠ .neighbour 0)
    (free : ∀ head ∈ bracket.closingChars.head?, head ∉ refused) :
    Ends refused (bracket.closingChars ++ rest) := by
  cases bracket with
  | totalControl => exact .cons (by decide) (free _ rfl)
  | group => exact .cons (by decide) (free _ rfl)
  | unlock => exact .cons (by decide) (free _ rfl)
  | paren => exact .cons (by decide) (free _ rfl)
  | neighbour hops =>
    cases hops with
    | zero => contradiction
    | succ hops => exact .cons (by decide) (free _ rfl)

namespace Spells

theorem scan_eq (spells : Spells refused text tokens) : scan text = .ok tokens := by
  have alone := spells [] [] Ends.nil (by rw [scan])
  rw [List.append_nil, List.append_nil] at alone
  exact alone

/-- Refusing more behind the text asks less of it. -/
theorem mono (spells : Spells refused text tokens) (fewer : refused ⊆ behind) :
    Spells behind text tokens := by
  intro rest more ends scanned
  refine spells rest more (fun head first => ?_) scanned
  exact ⟨(ends head first).1, fun listed => (ends head first).2 (fewer listed)⟩

theorem nil : Spells [] [] [] := by
  intro rest more ends scanned
  exact scanned

theorem name {name : String} (whole : IsName name.toList) :
    Spells [] name.toList [.name name] := by
  intro rest more ends scanned
  rcases whole with ⟨nonempty, whole⟩
  cases spelled : name.toList with
  | nil => contradiction
  | cons head tail =>
    rw [spelled] at whole
    rcases splitName_cons_eq.1 (splitName_append whole ends) with ⟨named, apart, later⟩
    have read := readToken_of_isNameChar named apart
    rw [later, ← spelled, String.ofList_toList] at read
    exact scan_token (isSkipped_of_isNameChar named) read scanned

/-- Two texts with a blank between them. -/
theorem append_blank (first : Spells refused text tokens) (free : ' ' ∉ refused)
    (second : Spells behind other others) :
    Spells behind (text ++ ' ' :: other) (tokens ++ others) := by
  intro rest more ends scanned
  rw [List.append_assoc, List.append_assoc]
  refine first _ _ (.cons (by decide) free) ?_
  rw [List.cons_append, scan_skip (by decide)]
  exact second rest more ends scanned

/-- The or sign and a blank in front of a text. -/
theorem orSign (second : Spells refused text tokens) :
    Spells refused (orChars ++ ' ' :: text) (.orSign :: tokens) := by
  intro rest more ends scanned
  refine @scan_token ('は' :: ' ' :: (text ++ rest)) _ '又' .orSign (' ' :: (text ++ rest))
    (by decide) ?_ ?_
  · rfl
  · rw [scan_skip (by decide)]
    exact second rest more ends scanned

/-- The exception sign and a blank in front of a text that does not begin as a timer. -/
theorem unlessSign (second : Spells refused text tokens)
    (untimed : ∀ rest, Ends refused rest → readTimer (text ++ rest) = none) :
    Spells refused (exceptionChar :: ' ' :: text) (.unlessSign :: tokens) := by
  intro rest more ends scanned
  refine @scan_token (' ' :: (text ++ rest)) _ exceptionChar .unlessSign (' ' :: (text ++ rest))
    (by decide) ?_ ?_
  · rw [exceptionChar, readToken, readTimer_blank, untimed rest ends]
  · rw [scan_skip (by decide)]
    exact second rest more ends scanned

/-- The exception sign and a blank in front of a text that begins as a timer. -/
theorem swallowed {seconds : Seconds} {left : List Char} (second : Spells refused left tokens)
    (timed : ∀ rest, Ends refused rest →
      readTimer (text ++ rest) = some (seconds, left ++ rest)) :
    Spells refused (exceptionChar :: ' ' :: text) (.timer seconds :: tokens) := by
  intro rest more ends scanned
  refine @scan_token (' ' :: (text ++ rest)) _ exceptionChar (.timer seconds) (left ++ rest)
    (by decide) ?_ (second rest more ends scanned)
  rw [exceptionChar, readToken, readTimer_blank, timed rest ends]

/-- A timer behind a text. -/
theorem append_timer (first : Spells refused text tokens) (free : exceptionChar ∉ refused)
    (seconds : Seconds) :
    Spells [] (text ++ (Token.timer seconds).chars) (tokens ++ [.timer seconds]) := by
  intro rest more ends scanned
  rw [List.append_assoc, List.append_assoc]
  refine first _ _ (.cons (by decide) free) ?_
  refine scan_token (by decide) ?_ scanned
  change readToken exceptionChar (Text.Numeral.write seconds.toNat ++ [secondsChar] ++ rest) = _
  rw [List.append_assoc, List.singleton_append, exceptionChar, readToken, readTimer_write]

/-- A text in brackets. -/
theorem wrap {bracket : Bracket} (inside : Spells refused text tokens)
    (proper : bracket ≠ .neighbour 0)
    (apart : Begins (· ∉ bracket.openingRun) text ∨ bracket.openingRun = [])
    (free : ∀ head ∈ bracket.closingChars.head?, head ∉ refused) :
    Spells bracket.closingRun (bracket.openingChars ++ text ++ bracket.closingChars)
      (.opening bracket :: (tokens ++ [.closing bracket])) := by
  intro rest more ends scanned
  rw [List.append_assoc, List.append_assoc, List.cons_append, List.append_assoc]
  refine scan_opening proper ?_ ?_
  · rcases apart with ⟨head, tail, rfl, free⟩ | single
    · intro first same
      cases same
      exact free
    · rw [single]
      exact fun head _ => List.not_mem_nil
  · refine inside _ _ (ends_closing proper free) ?_
    exact scan_closing proper (fun head first => (ends head first).2) scanned

end Spells

end Notation
end SignalBox
