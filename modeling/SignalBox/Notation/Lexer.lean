import SignalBox.Notation.Error
import SignalBox.Text.Blank

namespace SignalBox
namespace Notation

/-!
# Splitting a cell into tokens

Blanks and separators stand between tokens and mean nothing.  Runs of square brackets are
one token, double parentheses are taken before single ones, and a name is as long as its
characters allow but ends where the or sign begins.  The exception sign is a timer where
digits and the seconds sign follow it and the number fits into 32 bits; elsewhere it
stands on its own.
-/

/-- Whether a character only separates tokens. -/
def isSkipped (character : Char) : Bool :=
  Text.isBlank character || separators.contains character

/-- Whether a character can stand in a name: ASCII letters and digits, hiragana,
katakana in both widths and ideographs, without the exception sign and the separators. -/
def isNameChar (character : Char) : Bool :=
  character != exceptionChar && !separators.contains character &&
    (character.isAlphanum ||
      ('\u3040' ≤ character && character ≤ '\u309f') ||
      ('\u30a0' ≤ character && character ≤ '\u30ff') ||
      ('\u4e00' ≤ character && character ≤ '\u9fff') ||
      ('\uff66' ≤ character && character ≤ '\uff9f'))

/-- The name at the head of a text, and the text behind it. -/
def splitName : List Char → List Char × List Char
  | [] => ([], [])
  | head :: rest =>
    if !isNameChar head || orChars.isPrefixOf (head :: rest) then ([], head :: rest)
    else
      let split := splitName rest
      (head :: split.1, split.2)

/-- The seconds of a timer whose exception sign has been read, and the text behind it. -/
def readTimer (text : List Char) : Option (Seconds × List Char) :=
  let unread := Text.skipBlanks text
  let digits := unread.takeWhile Char.isDigit
  match unread.dropWhile Char.isDigit with
  | mark :: rest =>
    if digits.isEmpty || mark != secondsChar then none
    else
      (Text.Numeral.within 32 (Text.Numeral.value digits)).map fun seconds =>
        (UInt32.ofNat seconds, rest)
  | [] => none

/-- The token that begins with a character, and the text behind it.  None where no token
begins with the character. -/
def readToken (head : Char) (rest : List Char) : Option (Token × List Char) :=
  match head with
  | '[' =>
    some (.opening (.neighbour ((rest.takeWhile (· == '[')).length + 1)),
      rest.dropWhile (· == '['))
  | ']' =>
    some (.closing (.neighbour ((rest.takeWhile (· == ']')).length + 1)),
      rest.dropWhile (· == ']'))
  | '(' =>
    match rest with
    | '(' :: rest => some (.opening .totalControl, rest)
    | rest => some (.opening .paren, rest)
  | ')' =>
    match rest with
    | ')' :: rest => some (.closing .totalControl, rest)
    | rest => some (.closing .paren, rest)
  | '\x7b' => some (.opening .group, rest)
  | '\x7d' => some (.closing .group, rest)
  | '｢' => some (.opening .unlock, rest)
  | '｣' => some (.closing .unlock, rest)
  | '但' =>
    match readTimer rest with
    | some (seconds, rest) => some (.timer seconds, rest)
    | none => some (.unlessSign, rest)
  | head =>
    if orChars.isPrefixOf (head :: rest) then some (.orSign, rest.drop 1)
    else if isNameChar head then
      let split := splitName rest
      some (.name (String.ofList (head :: split.1)), split.2)
    else none

theorem length_splitName_le (text : List Char) : (splitName text).2.length ≤ text.length := by
  induction text with
  | nil => simp [splitName]
  | cons head rest inductionHypothesis =>
    rw [splitName]
    split
    · simp
    · simpa using Nat.le_succ_of_le inductionHypothesis

theorem length_readTimer_le {text rest : List Char} {seconds : Seconds}
    (read : readTimer text = some (seconds, rest)) : rest.length ≤ text.length := by
  have shorter := (List.dropWhile_suffix Char.isDigit (l := Text.skipBlanks text)).length_le
  have unread := Text.length_skipBlanks_le text
  simp only [readTimer] at read
  split at read
  · next mark tail found =>
    rw [found] at shorter
    split at read
    · contradiction
    · simp only [Option.map_eq_some_iff, Prod.mk.injEq] at read
      obtain ⟨_, _, _, same⟩ := read
      subst same
      simp only [List.length_cons] at shorter
      omega
  · contradiction

theorem length_readToken_le {head : Char} {rest remaining : List Char} {token : Token}
    (read : readToken head rest = some (token, remaining)) :
    remaining.length ≤ rest.length := by
  unfold readToken at read
  split at read
  · cases read; exact (List.dropWhile_suffix _).length_le
  · cases read; exact (List.dropWhile_suffix _).length_le
  · split at read <;> cases read <;> simp
  · split at read <;> cases read <;> simp
  · cases read; exact Nat.le_refl _
  · cases read; exact Nat.le_refl _
  · cases read; exact Nat.le_refl _
  · cases read; exact Nat.le_refl _
  · split at read
    · next found => cases read; exact length_readTimer_le found
    · cases read; exact Nat.le_refl _
  · split at read
    · cases read; simp
    · split at read
      · cases read; exact length_splitName_le rest
      · contradiction

/-- Split a text into tokens, or name its first character that belongs to none. -/
def scan : List Char → Except Error (List Token)
  | [] => .ok []
  | head :: rest =>
    if isSkipped head then scan rest
    else
      match _read : readToken head rest with
      | none => .error (.unknownCharacter head)
      | some (token, remaining) => (scan remaining).map (token :: ·)
termination_by text => text.length
decreasing_by
  · simp
  · exact Nat.lt_succ_of_le (length_readToken_le _read)

/-- Split a cell into tokens. -/
def tokenize (cell : String) : Except Error (List Token) :=
  scan cell.toList

end Notation
end SignalBox
