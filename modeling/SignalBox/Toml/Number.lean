import SignalBox.Json.Parser
import SignalBox.Toml.Text

namespace SignalBox
namespace Toml

/-!
# Numbers of configuration files

Integers of 64 bits, in base ten with a sign or without one in another base, and numbers
with a fraction or an exponent, which are kept as they are written.  Underscores may stand
between digits.
-/

/-- Whether underscores stand between digits only. -/
def hasSoundUnderscores : List Char → Bool
  | [] => true
  | ['_'] => false
  | '_' :: '_' :: _ => false
  | _ :: rest => hasSoundUnderscores rest

/-- The digits of a base in a text, which has underscores between them only. -/
def digitsIn? (base : Nat) (text : List Char) : Option (List Char) :=
  let digits := text.filter (· != '_')
  if text.head? == some '_' || !hasSoundUnderscores text || digits.isEmpty then none
  else if digits.all fun c => (digitValue? base c).isSome then some digits
  else none

/-- The digits of an unsigned integer in base ten, which has no leading zeros. -/
def wholeDigits? (text : List Char) : Option (List Char) := do
  let digits ← digitsIn? 10 text
  if digits.length > 1 && digits.head? == some '0' then none else some digits

/-- A text without its sign, and whether the sign is a minus. -/
def splitSign : List Char → Bool × List Char
  | '-' :: rest => (true, rest)
  | '+' :: rest => (false, rest)
  | text => (false, text)

/-- The number of an integer. -/
def integer? (text : List Char) : Option Int :=
  let inBase (base : Nat) (digits : List Char) : Option Int :=
    ((digitsIn? base digits).bind (numberIn? base)).map Int.ofNat
  match text with
  | '0' :: 'x' :: digits => inBase 16 digits
  | '0' :: 'o' :: digits => inBase 8 digits
  | '0' :: 'b' :: digits => inBase 2 digits
  | text => do
    let (negative, unsigned) := splitSign text
    let number ← (wholeDigits? unsigned).bind (numberIn? 10)
    some (if negative then -(number : Int) else number)

/-- Whether an integer has 64 bits. -/
def isWord (number : Int) : Bool :=
  let limit : Int := Nat.pow 2 63
  decide (-limit ≤ number ∧ number < limit)

/-- A text up to a character and behind it; nothing is behind where the character is not in
the text. -/
def splitAt (isMark : Char → Bool) (text : List Char) : List Char × Option (List Char) :=
  match text.dropWhile fun c => !isMark c with
  | [] => (text, none)
  | _ :: rest => (text.takeWhile fun c => !isMark c, some rest)

/-- Whether a text is a number with a fraction, an exponent, or both, or one of the words
for infinity and for what is no number.  A positive number must not be beyond every
double. -/
def isDecimal (text : List Char) : Bool :=
  let (negative, unsigned) := splitSign text
  if unsigned = ['i', 'n', 'f'] ∨ unsigned = ['n', 'a', 'n'] then true
  else
    let (mantissa, exponent) := splitAt (fun c => c == 'e' || c == 'E') unsigned
    let (whole, fraction) := splitAt (· == '.') mantissa
    let power := exponent.map splitSign
    match wholeDigits? whole, fraction.mapM (digitsIn? 10),
        power.mapM fun power => digitsIn? 10 power.2 with
    | some digits, some fractional, some powerDigits =>
      let magnitude : Int := Json.decimalValue (powerDigits.getD [])
      let scale := if power.any Prod.fst then -magnitude else magnitude
      let behindPoint := fractional.getD []
      (fraction.isSome || exponent.isSome) &&
        (negative || !Json.exceedsDouble (digits ++ behindPoint) (scale - behindPoint.length))
    | _, _, _ => false

end Toml
end SignalBox
