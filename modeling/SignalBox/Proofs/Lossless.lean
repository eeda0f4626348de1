import Mathlib.Data.List.Forall2
import Mathlib.Data.List.Induction
import SignalBox.Proofs.Spelling

namespace SignalBox

/-!
# What tokens keep of a text

Splitting a text into tokens loses only what stands between tokens, the blanks inside of a
timer, and the zeros in front of its number.  So the tokens written one behind the other are
the text without its blanks and separators.

A character that neither belongs to a token nor separates tokens is foreign.  No token takes
one, whatever it takes beside its first character, and a character that begins no token is
foreign.  Splitting therefore stops at the first foreign character of the text, and nowhere
else.
-/

namespace Text.Numeral

/-- A digit stands for a number below ten, and is the digit of that number. -/
theorem digit_digitValue {letter : Char} (decimal : letter.isDigit = true) :
    digitValue letter < 10 ∧ digit (digitValue letter) = letter := by
  have bounds : 48 ≤ letter.toNat ∧ letter.toNat ≤ 57 := by
    simpa [Char.isDigit, UInt32.le_iff_toNat_le] using decimal
  have zero : '0'.toNat = 48 := rfl
  rw [digit, digitValue, zero]
  constructor
  · omega
  · rw [Nat.add_sub_cancel' bounds.1, Char.ofNat_toNat]

/-- A digit behind a number is its last one, unless the number is zero. -/
theorem write_append_digit {number last : Nat} (positive : 0 < number) (small : last < 10) :
    write (10 * number + last) = write number ++ [digit last] := by
  have front : (10 * number + last) / 10 = number := by omega
  have behind : (10 * number + last) % 10 = last := by omega
  rw [write, if_neg (by omega), front, behind]

/-- Digits are the number they write, with zeros in front of it. -/
theorem exists_zeros {digits : List Char} (nonempty : digits ≠ [])
    (decimal : ∀ letter ∈ digits, letter.isDigit = true) :
    ∃ zeros, digits = List.replicate zeros '0' ++ write (value digits) := by
  induction digits using List.reverseRecOn with
  | nil => contradiction
  | append_singleton front last inductionHypothesis =>
    rcases digit_digitValue (decimal last (by simp)) with ⟨small, same⟩
    have single : write (digitValue last) = [last] := by
      rw [write, if_pos small, same]
    rw [value_append_digit]
    by_cases alone : front = []
    · subst alone
      exact ⟨0, by simpa [value] using single.symm⟩
    · rcases inductionHypothesis alone fun letter member => decimal letter (by simp [member]) with
        ⟨zeros, whole⟩
      rcases Nat.eq_zero_or_pos (value front) with zero | positive
      · -- The digits in front are zeros, and the last digit is the whole number.
        have nothing : write 0 = ['0'] := by
          rw [write]
          rfl
        rw [zero, nothing] at whole
        refine ⟨zeros + 1, ?_⟩
        rw [zero, Nat.mul_zero, Nat.zero_add, single, whole, List.replicate_succ']
      · refine ⟨zeros, ?_⟩
        rw [write_append_digit positive small, same, ← List.append_assoc, ← whole]

end Text.Numeral

namespace Notation

/-- The characters that brackets are written with. -/
def bracketChars : List Char := ['[', ']', '(', ')', '\x7b', '\x7d', '｢', '｣']

/-- Whether a character neither belongs to a token nor separates tokens. -/
def isForeign (letter : Char) : Bool :=
  !(isSkipped letter || bracketChars.contains letter || letter == exceptionChar ||
    isNameChar letter)

/-- A text without its blanks and separators. -/
def unskipped (text : List Char) : List Char :=
  text.filter fun letter => !isSkipped letter

/-- The text is that of the token.  The number of a timer may have zeros in front of it. -/
inductive Writes : Token → List Char → Prop
  | plain (token : Token) : Writes token token.chars
  | timer (zeros : Nat) (seconds : Seconds) :
    Writes (.timer seconds) (exceptionChar ::
      (List.replicate zeros '0' ++ Text.Numeral.write seconds.toNat ++ [secondsChar]))

/-- What a token takes from the text that it begins. -/
structure Takes (token : Token) (taken : List Char) : Prop where
  writes : Writes token (unskipped taken)
  nonempty : unskipped taken ≠ []
  native : ∀ letter ∈ taken, isForeign letter = false

variable {text other rest remaining taken : List Char} {tokens : List Token} {token : Token}
  {head : Char}

/-! ## Characters -/

theorem isForeign_of_isSkipped {letter : Char} (skipped : isSkipped letter = true) :
    isForeign letter = false := by
  rw [isForeign, skipped]
  rfl

theorem isForeign_of_isNameChar {letter : Char} (named : isNameChar letter = true) :
    isForeign letter = false := by
  rw [isForeign, named, Bool.or_true]
  rfl

/-- The or sign is written with characters of names. -/
theorem isNameChar_of_mem_orChars {letter : Char} (member : letter ∈ orChars) :
    isNameChar letter = true := by
  rcases List.mem_cons.1 member with rfl | last
  · decide
  · rw [List.mem_singleton.1 last]
    decide

theorem isSkipped_of_isBlank {letter : Char} (blank : Text.isBlank letter = true) :
    isSkipped letter = true := by
  rw [isSkipped, blank, Bool.true_or]

theorem unskipped_append (text other : List Char) :
    unskipped (text ++ other) = unskipped text ++ unskipped other :=
  List.filter_append text other

theorem unskipped_of_kept (kept : ∀ letter ∈ text, isSkipped letter = false) :
    unskipped text = text := by
  refine List.filter_eq_self.2 fun letter member => ?_
  rw [kept letter member]
  rfl

theorem unskipped_of_isBlank (blank : ∀ letter ∈ text, Text.isBlank letter = true) :
    unskipped text = [] := by
  refine List.filter_eq_nil_iff.2 fun letter member => ?_
  rw [isSkipped_of_isBlank (blank letter member)]
  exact Bool.false_ne_true

/-! ## What a token takes -/

/-- A token that is written as it stands takes no more. -/
theorem takes_chars (nonempty : token.chars ≠ [])
    (kept : ∀ letter ∈ token.chars, isSkipped letter = false)
    (native : ∀ letter ∈ token.chars, isForeign letter = false) : Takes token token.chars := by
  have whole := unskipped_of_kept kept
  refine ⟨?_, ?_, native⟩
  · rw [whole]
    exact .plain token
  · rw [whole]
    exact nonempty

/-- A timer is digits and the seconds sign behind blanks. -/
theorem exists_digits_of_readTimer {seconds : Seconds}
    (read : readTimer text = some (seconds, rest)) :
    ∃ blanks digits, text = blanks ++ digits ++ secondsChar :: rest ∧
      (∀ letter ∈ blanks, Text.isBlank letter = true) ∧ digits ≠ [] ∧
      (∀ letter ∈ digits, letter.isDigit = true) ∧
      Text.Numeral.value digits = seconds.toNat := by
  have split := List.takeWhile_append_dropWhile (p := Text.isBlank) (l := text)
  have parted := List.takeWhile_append_dropWhile (p := Char.isDigit) (l := Text.skipBlanks text)
  simp only [readTimer] at read
  split at read
  · next mark behind found =>
    split at read
    · cases read
    · next timed =>
      simp only [Bool.or_eq_true, List.isEmpty_iff, bne_iff_ne, not_or, not_not] at timed
      rcases Option.map_eq_some_iff.1 read with ⟨number, fits, same⟩
      cases same
      rw [Text.Numeral.within] at fits
      split at fits
      · next small =>
        cases fits
        rw [found, timed.2] at parted
        refine ⟨text.takeWhile Text.isBlank, _, ?_, ?_, timed.1, ?_, ?_⟩
        · rw [List.append_assoc, parted]
          exact split.symm
        · exact List.all_eq_true.1 List.all_takeWhile
        · exact List.all_eq_true.1 List.all_takeWhile
        · exact (Nat.mod_eq_of_lt small).symm
      · cases fits
  · cases read

theorem takes_timer {blanks digits : List Char} {seconds : Seconds}
    (blank : ∀ letter ∈ blanks, Text.isBlank letter = true) (nonempty : digits ≠ [])
    (decimal : ∀ letter ∈ digits, letter.isDigit = true)
    (number : Text.Numeral.value digits = seconds.toNat) :
    Takes (.timer seconds) (exceptionChar :: (blanks ++ digits ++ [secondsChar])) := by
  have named : ∀ letter ∈ digits ++ [secondsChar], isNameChar letter = true :=
    List.forall_mem_append.2 ⟨fun letter member => isNameChar_of_isDigit (decimal letter member),
      List.forall_mem_singleton.2 (by decide)⟩
  have kept : unskipped (exceptionChar :: (blanks ++ digits ++ [secondsChar])) =
      exceptionChar :: (digits ++ [secondsChar]) := by
    have front : unskipped (exceptionChar :: blanks) = [exceptionChar] := by
      change unskipped ([exceptionChar] ++ blanks) = _
      rw [unskipped_append, unskipped_of_isBlank blank]
      decide
    rw [List.append_assoc, ← List.cons_append, unskipped_append, front,
      unskipped_of_kept fun letter member => isSkipped_of_isNameChar (named letter member)]
    rfl
  rcases Text.Numeral.exists_zeros nonempty decimal with ⟨zeros, whole⟩
  refine ⟨?_, ?_, ?_⟩
  · rw [kept, whole, number]
    exact .timer zeros seconds
  · rw [kept]
    exact List.cons_ne_nil _ _
  · rw [List.append_assoc]
    refine List.forall_mem_cons.2 ⟨by decide, List.forall_mem_append.2 ⟨?_, ?_⟩⟩
    · exact fun letter member => isForeign_of_isSkipped (isSkipped_of_isBlank (blank letter member))
    · exact fun letter member => isForeign_of_isNameChar (named letter member)

/-- A text begins with the run of a character that is its longest one. -/
theorem replicate_append_dropWhile (letter : Char) (text : List Char) :
    List.replicate (text.takeWhile (· == letter)).length letter ++ text.dropWhile (· == letter) =
      text := by
  have run : text.takeWhile (· == letter) =
      List.replicate (text.takeWhile (· == letter)).length letter :=
    List.eq_replicate_of_mem fun other member =>
      eq_of_beq (List.all_eq_true.1 List.all_takeWhile other member)
  rw [← run, List.takeWhile_append_dropWhile]

theorem takes_run {letter : Char} (count : Nat)
    (same : token.chars = List.replicate (count + 1) letter) (kept : isSkipped letter = false)
    (native : isForeign letter = false) :
    Takes token token.chars := by
  refine takes_chars ?_ ?_ ?_
  · rw [same]
    exact List.cons_ne_nil _ _
  · intro other member
    rw [same] at member
    rw [List.eq_of_mem_replicate member, kept]
  · intro other member
    rw [same] at member
    rw [List.eq_of_mem_replicate member, native]

theorem takes_name {name : String} (named : IsName name.toList) :
    Takes (.name name) name.toList := by
  have letters := (splitName_eq_self_iff.1 named.whole).1
  change Takes (.name name) (Token.name name).chars
  refine takes_chars named.nonempty ?_ ?_
  · exact fun letter member => isSkipped_of_isNameChar (letters letter member)
  · exact fun letter member => isForeign_of_isNameChar (letters letter member)

/-- A token takes the beginning of its text, and leaves the rest. -/
theorem takes_of_readToken (read : readToken head rest = some (token, remaining)) :
    ∃ taken, head :: rest = taken ++ remaining ∧ Takes token taken := by
  have found := read
  unfold readToken at read
  split at read
  · cases read
    refine ⟨_, ?_, takes_run _ rfl (by decide) (by decide)⟩
    exact congrArg ('[' :: ·) (replicate_append_dropWhile '[' rest).symm
  · cases read
    refine ⟨_, ?_, takes_run _ rfl (by decide) (by decide)⟩
    exact congrArg (']' :: ·) (replicate_append_dropWhile ']' rest).symm
  · split at read
    · cases read
      exact ⟨_, rfl, takes_run 1 rfl (by decide) (by decide)⟩
    · cases read
      exact ⟨_, rfl, takes_run 0 rfl (by decide) (by decide)⟩
  · split at read
    · cases read
      exact ⟨_, rfl, takes_run 1 rfl (by decide) (by decide)⟩
    · cases read
      exact ⟨_, rfl, takes_run 0 rfl (by decide) (by decide)⟩
  · cases read
    exact ⟨_, rfl, takes_run 0 rfl (by decide) (by decide)⟩
  · cases read
    exact ⟨_, rfl, takes_run 0 rfl (by decide) (by decide)⟩
  · cases read
    exact ⟨_, rfl, takes_run 0 rfl (by decide) (by decide)⟩
  · cases read
    exact ⟨_, rfl, takes_run 0 rfl (by decide) (by decide)⟩
  · split at read
    · next seconds behind timed =>
      cases read
      rcases exists_digits_of_readTimer timed with
        ⟨blanks, digits, rfl, blank, nonempty, decimal, number⟩
      refine ⟨_, ?_, takes_timer blank nonempty decimal number⟩
      simp [exceptionChar]
    · cases read
      exact ⟨_, rfl, takes_run 0 rfl (by decide) (by decide)⟩
  · split at read
    · next sign =>
      rcases orChars_isPrefixOf_cons.1 sign with ⟨rfl, second⟩
      rcases List.head?_eq_some_iff.1 second with ⟨tail, rfl⟩
      cases read
      refine ⟨_, rfl, takes_chars (List.cons_ne_nil _ _) ?_ ?_⟩
      · exact fun letter member => isSkipped_of_isNameChar (isNameChar_of_mem_orChars member)
      · exact fun letter member => isForeign_of_isNameChar (isNameChar_of_mem_orChars member)
    · split at read
      · cases read
        refine ⟨_, ?_, takes_name (isName_of_readToken found)⟩
        rw [String.toList_ofList, List.cons_append, splitName_append_self]
      · cases read

/-- A token begins with every character that is neither skipped nor foreign. -/
theorem readToken_eq_none_iff (kept : isSkipped head = false) :
    readToken head rest = none ↔ isForeign head = true := by
  constructor
  · intro failed
    unfold readToken at failed
    split at failed
    case h_10 _ square squareEnd round roundEnd curly curlyEnd corner cornerEnd sign =>
      split at failed
      · cases failed
      · split at failed
        · cases failed
        · next unnamed =>
          have other : head ∉ bracketChars := by
            simp only [bracketChars, List.mem_cons, List.not_mem_nil, or_false, not_or]
            exact ⟨square, squareEnd, round, roundEnd, curly, curlyEnd, corner, cornerEnd⟩
          simpa [isForeign, kept, unnamed, other, exceptionChar] using sign
    all_goals first
      | cases failed
      | split at failed <;> cases failed
  · intro foreign
    cases read : readToken head rest with
    | none => rfl
    | some found =>
      rcases takes_of_readToken read with ⟨taken, whole, takes⟩
      cases taken with
      | nil => exact absurd rfl takes.nonempty
      | cons first taken =>
        cases whole
        rw [takes.native head List.mem_cons_self] at foreign
        cases foreign

/-! ## What the tokens of a text take -/

theorem find?_isForeign_append (native : ∀ letter ∈ text, isForeign letter = false) :
    (text ++ rest).find? isForeign = rest.find? isForeign := by
  rw [List.find?_append, List.find?_eq_none.2 fun letter member => by simp [native letter member]]
  rfl

/-- A text is refused for its first foreign character, and otherwise it is split. -/
theorem scan_eq_error {fault : Error} :
    scan text = .error fault ↔
      ∃ letter, text.find? isForeign = some letter ∧ fault = .unknownCharacter letter := by
  induction text using scan.induct with
  | case1 => simp [scan]
  | case2 head rest skipped inductionHypothesis =>
    have native := isForeign_of_isSkipped skipped
    rw [scan_skip skipped, inductionHypothesis, List.find?_cons_of_neg (by simp [native])]
  | case3 head rest kept failed =>
    have foreign := (readToken_eq_none_iff (Bool.eq_false_iff.2 kept)).1 failed
    rw [scan_refused (Bool.eq_false_iff.2 kept) failed, List.find?_cons_of_pos foreign]
    simp [eq_comm]
  | case4 head rest kept token remaining read inductionHypothesis =>
    rcases takes_of_readToken read with ⟨taken, whole, takes⟩
    rw [scan_kept (Bool.eq_false_iff.2 kept) read, Fallible.map_eq_error, inductionHypothesis,
      whole, find?_isForeign_append takes.native]

/-- The tokens of a text are written as the text is without its blanks and separators. -/
theorem Splits.exists_written (splits : Splits text tokens) :
    ∃ written, List.Forall₂ Writes tokens written ∧ written.flatten = unskipped text := by
  induction splits with
  | nil => exact ⟨[], .nil, rfl⟩
  | skip skipped behind inductionHypothesis =>
    rcases inductionHypothesis with ⟨written, writes, whole⟩
    refine ⟨written, writes, ?_⟩
    rw [whole, unskipped, unskipped, List.filter_cons_of_neg (by simp [skipped])]
  | token kept read behind inductionHypothesis =>
    rcases inductionHypothesis with ⟨written, writes, whole⟩
    rcases takes_of_readToken read with ⟨taken, parted, takes⟩
    refine ⟨unskipped taken :: written, .cons takes.writes writes, ?_⟩
    rw [parted, unskipped_append, List.flatten_cons, whole]

theorem Takes.chars_ne_nil (takes : Takes token taken) : token.chars ≠ [] := by
  rcases takes with ⟨writes, nonempty, _⟩
  generalize unskipped taken = written at writes nonempty
  cases writes with
  | plain => exact nonempty
  | timer zeros seconds => exact List.cons_ne_nil _ _

/-- Every token of a text has characters, also a run of brackets. -/
theorem Splits.chars_ne_nil (splits : Splits text tokens) (member : token ∈ tokens) :
    token.chars ≠ [] := by
  induction splits with
  | nil => cases member
  | skip skipped behind inductionHypothesis => exact inductionHypothesis member
  | token kept read behind inductionHypothesis =>
    rcases List.mem_cons.1 member with rfl | listed
    · rcases takes_of_readToken read with ⟨taken, _, takes⟩
      exact takes.chars_ne_nil
    · exact inductionHypothesis listed

/-- What the tokens of a text say of the text. -/
structure KeepsText (text : List Char) (tokens : List Token) : Prop where
  written : ∃ written, List.Forall₂ Writes tokens written ∧ written.flatten = unskipped text
  named : ∀ name, .name name ∈ tokens →
    name.toList ≠ [] ∧ (∀ letter ∈ name.toList, isNameChar letter = true) ∧
      ¬ orChars <:+: name.toList
  counted : ∀ hops,
    .opening (.neighbour hops) ∈ tokens ∨ .closing (.neighbour hops) ∈ tokens → 1 ≤ hops

theorem keepsText_of_scan (scanned : scan text = .ok tokens) : KeepsText text tokens where
  written := (splits_of_scan scanned).exists_written
  named := by
    intro name member
    have whole := isName_of_scan scanned member
    exact ⟨whole.nonempty, splitName_eq_self_iff.1 whole.whole⟩
  counted := by
    intro hops member
    refine Nat.one_le_iff_ne_zero.2 ?_
    rintro rfl
    rcases member with opens | closes
    · exact (splits_of_scan scanned).chars_ne_nil opens rfl
    · exact (splits_of_scan scanned).chars_ne_nil closes rfl

/-- A text without foreign characters is split into tokens that keep it. -/
theorem exists_scan_of_native (native : ∀ letter ∈ text, isForeign letter = false) :
    ∃ tokens, scan text = .ok tokens ∧ KeepsText text tokens := by
  cases split : scan text with
  | ok tokens => exact ⟨tokens, rfl, keepsText_of_scan split⟩
  | error fault =>
    rcases scan_eq_error.1 split with ⟨letter, found, _⟩
    have foreign := List.find?_some found
    rw [native letter (List.mem_of_find?_eq_some found)] at foreign
    cases foreign

/-- A text is refused exactly if it has a foreign character, and for the first one.  Every
other text is split into tokens that are written as it is without its blanks and separators,
where only the number of a timer may have zeros in front of it that the token has not; every
name is a nonempty run of characters of names without the or sign, and every run of square
brackets has at least one. -/
theorem texts_are_split_without_loss (cell : String) :
    (∀ fault, tokenize cell = .error fault ↔
      ∃ letter, cell.toList.find? isForeign = some letter ∧ fault = .unknownCharacter letter) ∧
    ((∀ letter ∈ cell.toList, isForeign letter = false) →
      ∃ tokens, tokenize cell = .ok tokens ∧ KeepsText cell.toList tokens) :=
  ⟨fun _ => scan_eq_error, exists_scan_of_native⟩

/-- A timer with blanks and zeros in it, the or sign between names, and an exception sign in
front of a number that is too large for a timer. -/
def denseText : String :=
  "[[1T・但 0030秒]]又は｢(2は)｣、但4294967296秒"

def denseTokens : List Token :=
  [.opening (.neighbour 2), .name "1T", .timer 30, .closing (.neighbour 2), .orSign,
    .opening .unlock, .opening .paren, .name "2は", .closing .paren, .closing .unlock,
    .unlessSign, .name "4294967296秒"]

/-- The dense text keeps its zeros only in the text, and its first bracket of another script is
foreign. -/
theorem dense_text_is_split_without_loss :
    tokenize denseText = .ok denseTokens ∧ KeepsText denseText.toList denseTokens ∧
      tokenize (denseText ++ "［3T］#") = .error (.unknownCharacter '［') := by
  have none : denseText.toList.any isForeign = false := by
    decide +kernel
  have native : ∀ letter ∈ denseText.toList, isForeign letter = false :=
    fun letter member => Bool.eq_false_iff.2 (List.any_eq_false.1 none letter member)
  have split : tokenize denseText = .ok denseTokens := by
    decide +kernel
  rcases (texts_are_split_without_loss denseText).2 native with ⟨tokens, same, kept⟩
  rw [split] at same
  cases same
  refine ⟨split, kept, ?_⟩
  refine ((texts_are_split_without_loss _).1 _).2 ⟨'［', ?_, rfl⟩
  decide +kernel

end Notation
end SignalBox
