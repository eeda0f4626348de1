import SignalBox.Json.Basic

namespace SignalBox
namespace Toml

/-!
# The text of configuration files

Readers for what the lines of a TOML file are made of: blanks, comments, line breaks and
strings.  A line ends with a line feed, which a carriage return may precede.  Tabs are the
only control characters that may stand in comments and strings as they are.
-/

/-- A reader at the head of a text. -/
abbrev Reader (α : Type) := List Char → Option (α × List Char)

/-- Whether a character may stand in a comment or a string as it is. -/
def isPlain (c : Char) : Bool :=
  c == '\t' || (0x20 ≤ c.toNat && c.toNat != 0x7f)

/-- The text without the blanks and tabs at its head. -/
def skipSpaces (text : List Char) : List Char :=
  text.dropWhile fun c => c == ' ' || c == '\t'

/-- The text without a comment at its head. -/
def skipComment : List Char → List Char
  | '#' :: rest => rest.dropWhile isPlain
  | text => text

/-- Read a line break, which stands for a line feed. -/
def lineBreak : Reader Char
  | '\n' :: rest => some ('\n', rest)
  | '\r' :: '\n' :: rest => some ('\n', rest)
  | _ => none

/-- Read the end of a line: blanks, a comment, and a line break or the end of the text. -/
def lineEnd (text : List Char) : Option (List Char) :=
  match skipComment (skipSpaces text) with
  | [] => some []
  | rest => (lineBreak rest).map Prod.snd

/-- The text without the blanks and line breaks at its head. -/
def skipBlanks : List Char → List Char
  | ' ' :: rest => skipBlanks rest
  | '\t' :: rest => skipBlanks rest
  | '\n' :: rest => skipBlanks rest
  | '\r' :: '\n' :: rest => skipBlanks rest
  | text => text

/-- The text without the blanks, line breaks and comments at its head, given whether it
begins inside a comment.  A character that no comment may hold is left at the head. -/
def skipLines (inComment : Bool) : List Char → List Char
  | '\n' :: rest => skipLines false rest
  | '\r' :: '\n' :: rest => skipLines false rest
  | c :: rest =>
    if inComment then if isPlain c then skipLines true rest else c :: rest
    else if c == ' ' || c == '\t' then skipLines false rest
    else if c == '#' then skipLines true rest
    else c :: rest
  | [] => []

/-- The value of a digit in a base up to sixteen. -/
def digitValue? (base : Nat) (c : Char) : Option Nat :=
  let number :=
    if c.isDigit then c.toNat - '0'.toNat
    else if 'a' ≤ c ∧ c ≤ 'f' then c.toNat - 'a'.toNat + 10
    else if 'A' ≤ c ∧ c ≤ 'F' then c.toNat - 'A'.toNat + 10
    else base
  if number < base then some number else none

/-- The number written by digits of a base. -/
def numberIn? (base : Nat) (digits : List Char) : Option Nat := do
  let values ← digits.mapM (digitValue? base)
  if values.isEmpty then none
  some (values.foldl (fun number digit => base * number + digit) 0)

/-- Read the character whose code is written with a number of hexadecimal digits. -/
def characterCode (width : Nat) : Reader Char := fun text => do
  let digits := text.take width
  if digits.length < width then none
  let code ← numberIn? 16 digits
  if code.isValidChar then some (Char.ofNat code, text.drop width) else none

/-- Read the rest of an escape after its backslash. -/
def escaped : Reader Char
  | 'b' :: rest => some (Char.ofNat 8, rest)
  | 't' :: rest => some ('\t', rest)
  | 'n' :: rest => some ('\n', rest)
  | 'f' :: rest => some (Char.ofNat 12, rest)
  | 'r' :: rest => some ('\r', rest)
  | '"' :: rest => some ('"', rest)
  | '\\' :: rest => some ('\\', rest)
  | 'u' :: rest => characterCode 4 rest
  | 'U' :: rest => characterCode 8 rest
  | _ => none

/-! ## Strings

A string is read piece by piece; a piece is written by one character or one escape and
stands for a character, or for none.
-/

/-- Read a piece of a string without escapes. -/
def literalPiece : Reader (Option Char)
  | c :: rest => if isPlain c then some (some c, rest) else none
  | [] => none

/-- Read a piece of a string with escapes. -/
def basicPiece : Reader (Option Char)
  | '\\' :: rest => (escaped rest).map fun read => (some read.1, read.2)
  | text => literalPiece text

/-- Read a piece of a string without escapes over several lines. -/
def literalLinesPiece : Reader (Option Char) := fun text =>
  match lineBreak text with
  | some (c, rest) => some (some c, rest)
  | none => literalPiece text

/-- Read a piece of a string with escapes over several lines.  A backslash at the end of a
line, together with the blanks and line breaks behind it, stands for no character. -/
def basicLinesPiece : Reader (Option Char) := fun text =>
  match lineBreak text, text with
  | some (c, rest), _ => some (some c, rest)
  | none, '\\' :: rest =>
    match lineBreak (skipSpaces rest) with
    | some (_, rest) => some (none, skipBlanks rest)
    | none => basicPiece text
  | none, _ => basicPiece text

/-- Read a string of one line up to its closing quote, given the characters before.  The
first argument bounds the number of pieces. -/
def lineString (quote : Char) (piece : Reader (Option Char)) : Nat → List Char → Reader String
  | 0, _, _ => none
  | bound + 1, read, text =>
    if text.head? == some quote then some (String.ofList read.reverse, text.tail)
    else
      match piece text with
      | some (c, rest) => lineString quote piece bound (c.toList ++ read) rest
      | none => none

/-- Read a string of several lines up to its three closing quotes, given the characters
before.  Fewer quotes belong to the string, and so do up to two right before the closing
ones.  The first argument bounds the number of pieces. -/
def linesString (quote : Char) (piece : Reader (Option Char)) : Nat → List Char → Reader String
  | 0, _, _ => none
  | bound + 1, read, text =>
    let quotes := (text.takeWhile (· == quote)).length
    if 3 ≤ quotes then
      let kept := min (quotes - 3) 2
      some (String.ofList (List.replicate kept quote ++ read).reverse, text.drop (kept + 3))
    else if 0 < quotes then
      linesString quote piece bound (List.replicate quotes quote ++ read) (text.drop quotes)
    else
      match piece text with
      | some (c, rest) => linesString quote piece bound (c.toList ++ read) rest
      | none => none

/-- Read a string of several lines whose opening quotes have been read; a line break right
behind them does not count. -/
def linesStringRest (quote : Char) (piece : Reader (Option Char)) : Reader String := fun text =>
  let body := ((lineBreak text).map Prod.snd).getD text
  linesString quote piece (body.length + 1) [] body

/-- Read a string on one line. -/
def string : Reader String
  | '"' :: rest => lineString '"' basicPiece (rest.length + 1) [] rest
  | '\'' :: rest => lineString '\'' literalPiece (rest.length + 1) [] rest
  | _ => none

/-- Read a string on one line or several. -/
def longString : Reader String
  | '"' :: '"' :: '"' :: rest => linesStringRest '"' basicLinesPiece rest
  | '\'' :: '\'' :: '\'' :: rest => linesStringRest '\'' literalLinesPiece rest
  | text => string text

end Toml
end SignalBox
