import SignalBox.Text.Numeral

namespace SignalBox
namespace Notation

/-!
# Tokens of the cell notation

A cell is a sequence of names and operators inside brackets of five kinds.  Opening and
closing tokens carry the bracket they belong to, so that a closing token matches an
opening one when the brackets are equal, the number of hops of a neighbour bracket
included.
-/

/-- The kinds of brackets. -/
inductive Bracket where
  /-- Double parentheses, around clauses of total control. -/
  | totalControl
  /-- A run of square brackets, around objects of the plant that many hops away. -/
  | neighbour (hops : Nat)
  /-- Curly brackets, around a group. -/
  | group
  /-- Parentheses, around a reversed object or a numbered alternative. -/
  | paren
  /-- Corner brackets, around objects that are subject to unlocking. -/
  | unlock
deriving DecidableEq, Repr

/-- The number of seconds of a timer. -/
abbrev Seconds := UInt32

inductive Token where
  | opening (bracket : Bracket)
  | closing (bracket : Bracket)
  /-- The exception sign with a number of seconds. -/
  | timer (seconds : Seconds)
  /-- The exception sign on its own: one operand holds, or the other does not. -/
  | unlessSign
  | orSign
  | name (text : String)
deriving DecidableEq, Repr

/-- The exception sign. -/
def exceptionChar : Char := '但'

/-- The sign behind the seconds of a timer. -/
def secondsChar : Char := '秒'

/-- The two characters of the or sign. -/
def orChars : List Char := ['又', 'は']

/-- The characters that separate tokens besides blanks. -/
def separators : List Char := ['、', ',', '・']

namespace Bracket

/-- The characters that open a bracket. -/
def openingChars : Bracket → List Char
  | totalControl => ['(', '(']
  | neighbour hops => List.replicate hops '['
  | group => ['\x7b']
  | paren => ['(']
  | unlock => ['｢']

/-- The characters that close a bracket. -/
def closingChars : Bracket → List Char
  | totalControl => [')', ')']
  | neighbour hops => List.replicate hops ']'
  | group => ['\x7d']
  | paren => [')']
  | unlock => ['｣']

end Bracket

namespace Token

/-- The characters of a token. -/
def chars : Token → List Char
  | opening bracket => bracket.openingChars
  | closing bracket => bracket.closingChars
  | timer seconds =>
    exceptionChar :: (Text.Numeral.write seconds.toNat ++ [secondsChar])
  | unlessSign => [exceptionChar]
  | orSign => orChars
  | name text => text.toList

/-- A token as text. -/
def text (token : Token) : String :=
  String.ofList token.chars

/-- Whether a token ends the sequence it stands in. -/
def isClosing : Token → Bool
  | closing _ => true
  | _ => false

end Token

end Notation
end SignalBox
