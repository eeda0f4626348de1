import SignalBox.Proofs.Lossless

namespace SignalBox
namespace Notation

/-!
# Texts that adjoin each other

A text behind another one is split as if it stood alone, and so is the text before it, where
no token goes on from the one into the other.  Three kinds of tokens could: a name with
further characters of names, a bracket with the same bracket, and an exception sign with the
digits of a timer, which may stand behind blanks.

Nothing else is asked of the two texts.  In particular a text may end in the middle of a run
of brackets, or with an exception sign.
-/

/-- The characters that go on a token of the same character. -/
def doubledChars : List Char := ['[', ']', '(', ')']

/-- No token of the text goes on in the text behind it. -/
structure Apart (text behind : List Char) : Prop where
  unnamed : ∀ head ∈ (Text.skipBlanks behind).head?, isNameChar head = false
  single : ∀ head ∈ behind.head?, head ∈ doubledChars → text.getLast? ≠ some head

variable {text other rest remaining : List Char} {tokens more : List Token} {head : Char}

namespace Apart

theorem of_suffix (apart : Apart text rest) (suffix : other <:+ text) : Apart other rest := by
  refine ⟨apart.unnamed, fun head first doubled last => ?_⟩
  rcases suffix with ⟨front, rfl⟩
  refine apart.single head first doubled ?_
  rw [List.getLast?_append, last]
  rfl

/-- A blank is no character of a name either. -/
theorem ends (apart : Apart text rest) : Ends [] rest := by
  intro head first
  refine ⟨?_, List.not_mem_nil⟩
  cases rest with
  | nil => cases first
  | cons other tail =>
    cases first
    cases blank : Text.isBlank head with
    | true =>
      rw [← Bool.not_eq_true]
      intro named
      rw [isBlank_of_isSkipped (isSkipped_of_isNameChar named)] at blank
      cases blank
    | false =>
      refine apart.unnamed head ?_
      rw [skipBlanks_cons blank]
      rfl

end Apart

/-! ## Single tokens -/

/-- The or sign does not go on in a text that no name goes on in. -/
theorem orChars_isPrefixOf_append (ends : Ends [] rest) :
    orChars.isPrefixOf (head :: (text ++ rest)) = orChars.isPrefixOf (head :: text) := by
  rw [Bool.eq_iff_iff, orChars_isPrefixOf_cons, orChars_isPrefixOf_cons]
  cases text with
  | cons second tail => rfl
  | nil =>
    have other : rest.head? ≠ some 'は' := by
      intro first
      exact absurd (ends 'は' first).1 (by decide)
    simp [other]

theorem splitName_append_of_ends (text : List Char) (ends : Ends [] rest) :
    splitName (text ++ rest) = ((splitName text).1, (splitName text).2 ++ rest) := by
  induction text with
  | nil => exact splitName_append rfl ends
  | cons head tail inductionHypothesis =>
    rw [List.cons_append, splitName, splitName, orChars_isPrefixOf_append ends]
    split
    · rfl
    · simp [inductionHypothesis]

theorem visible_skipBlanks (text : List Char) :
    ∀ head ∈ (Text.skipBlanks text).head?, Text.isBlank head = false := by
  intro head first
  have stopped := List.head?_dropWhile_not Text.isBlank text
  rw [Text.skipBlanks] at first
  rw [first] at stopped
  exact stopped

theorem readTimer_skipBlanks (text : List Char) :
    readTimer (Text.skipBlanks text) = readTimer text := by
  refine readTimer_congr ?_
  cases unread : Text.skipBlanks text with
  | nil => rfl
  | cons head tail =>
    refine skipBlanks_cons (visible_skipBlanks text head ?_)
    rw [unread]
    rfl

/-- Behind blanks alone the digits of a timer would stand in the text behind them. -/
theorem readTimer_append_of_apart (apart : Apart text rest) :
    readTimer (text ++ rest) = (readTimer text).map fun found => (found.1, found.2 ++ rest) := by
  have parted : text.takeWhile Text.isBlank ++ Text.skipBlanks text = text :=
    List.takeWhile_append_dropWhile
  have skipped : Text.skipBlanks (text ++ rest) =
      Text.skipBlanks (Text.skipBlanks text ++ rest) := by
    conv_lhs => rw [← parted]
    rw [List.append_assoc]
    exact List.dropWhile_append_of_pos (List.all_eq_true.1 List.all_takeWhile)
  rw [readTimer_congr skipped, ← readTimer_skipBlanks text]
  cases unread : Text.skipBlanks text with
  | cons head tail =>
    refine readTimer_append_of_visible ⟨head, tail, rfl, ?_⟩ apart.ends
    exact visible_skipBlanks text head (by rw [unread]; rfl)
  | nil =>
    rw [List.nil_append, ← readTimer_skipBlanks rest]
    cases later : Text.skipBlanks rest with
    | nil => rfl
    | cons head tail =>
      have unnamed := apart.unnamed head (by rw [later]; rfl)
      refine readTimer_cons_of_not_digit (visible_skipBlanks rest head (by rw [later]; rfl)) ?_
      rw [← Bool.not_eq_true]
      intro digit
      rw [isNameChar_of_isDigit digit] at unnamed
      cases unnamed

/-- A run of brackets ends with the text, unless the text behind it begins with the same. -/
theorem run_append {letter : Char}
    (ends : rest.head? = some letter → (letter :: text).getLast? ≠ some letter) :
    (text ++ rest).takeWhile (· == letter) = text.takeWhile (· == letter) ∧
      (text ++ rest).dropWhile (· == letter) = text.dropWhile (· == letter) ++ rest := by
  induction text with
  | nil =>
    cases rest with
    | nil => exact ⟨rfl, rfl⟩
    | cons first tail =>
      have other : first ≠ letter := by
        rintro rfl
        exact ends rfl rfl
      simp [other]
  | cons first tail inductionHypothesis =>
    by_cases same : first = letter
    · subst same
      have later := inductionHypothesis fun begins => by simpa using ends begins
      simp [later]
    · simp [same]

theorem readToken_round (text : List Char) :
    readToken '(' text = if text.head? = some '(' then some (.opening .totalControl, text.tail)
      else some (.opening .paren, text) := by
  cases text with
  | nil => rfl
  | cons first tail =>
    by_cases same : first = '('
    · subst same
      rfl
    · rw [if_neg (by simpa using same), readToken]
      rintro other ⟨⟩
      exact same rfl

theorem readToken_roundEnd (text : List Char) :
    readToken ')' text = if text.head? = some ')' then some (.closing .totalControl, text.tail)
      else some (.closing .paren, text) := by
  cases text with
  | nil => rfl
  | cons first tail =>
    by_cases same : first = ')'
    · subst same
      rfl
    · rw [if_neg (by simpa using same), readToken]
      rintro other ⟨⟩
      exact same rfl

/-- A parenthesis is single or double as it is in its own text. -/
theorem pair_append {letter : Char} {double single : Token}
    (ends : rest.head? = some letter → (letter :: text).getLast? ≠ some letter) :
    (if (text ++ rest).head? = some letter then some (double, (text ++ rest).tail)
      else some (single, text ++ rest)) =
      (if text.head? = some letter then some (double, text.tail) else some (single, text)).map
        fun found => (found.1, found.2 ++ rest) := by
  cases text with
  | nil =>
    have other : rest.head? ≠ some letter := fun begins => ends begins rfl
    simp [other]
  | cons first tail =>
    by_cases same : first = letter
    · simp [same]
    · simp [same]

/-- The token that a text begins with, and all that it takes, is the same in front of a text
that is apart. -/
theorem readToken_append (apart : Apart (head :: text) rest) :
    readToken head (text ++ rest) =
      (readToken head text).map fun found => (found.1, found.2 ++ rest) := by
  have ends : ∀ letter ∈ doubledChars, head = letter → rest.head? = some letter →
      (letter :: text).getLast? ≠ some letter := by
    rintro letter doubled rfl begins
    exact apart.single head begins doubled
  have before := apart.of_suffix (List.suffix_cons head text)
  unfold readToken
  split
  · have run := run_append (ends '[' (by decide) rfl)
    rw [run.1, run.2]
    rfl
  · have run := run_append (ends ']' (by decide) rfl)
    rw [run.1, run.2]
    rfl
  · change readToken '(' (text ++ rest) = (readToken '(' text).map _
    rw [readToken_round, readToken_round, pair_append (ends '(' (by decide) rfl)]
  · change readToken ')' (text ++ rest) = (readToken ')' text).map _
    rw [readToken_roundEnd, readToken_roundEnd, pair_append (ends ')' (by decide) rfl)]
  · rfl
  · rfl
  · rfl
  · rfl
  · rw [readTimer_append_of_apart before]
    cases readTimer text <;> rfl
  · rw [orChars_isPrefixOf_append before.ends, splitName_append_of_ends text before.ends]
    split
    · next sign =>
      rcases orChars_isPrefixOf_cons.1 sign with ⟨_, second⟩
      rcases List.head?_eq_some_iff.1 second with ⟨tail, rfl⟩
      rfl
    · split <;> rfl

/-! ## Whole texts -/

/-- Texts that are apart split into the tokens of the one and those of the other. -/
theorem Splits.scan_append (splits : Splits text tokens) (apart : Apart text rest)
    (scanned : scan rest = .ok more) : scan (text ++ rest) = .ok (tokens ++ more) := by
  induction splits with
  | nil => exact scanned
  | skip skipped behind inductionHypothesis =>
    rw [List.cons_append, scan_skip skipped]
    exact inductionHypothesis (apart.of_suffix (List.suffix_cons _ _))
  | @token head text remaining token tokens kept read behind inductionHypothesis =>
    rcases takes_of_readToken read with ⟨taken, parted, _⟩
    have later := inductionHypothesis (apart.of_suffix ⟨taken, parted.symm⟩)
    rw [List.cons_append]
    refine scan_token kept ?_ later
    rw [readToken_append apart, read]
    rfl

end Notation
end SignalBox
