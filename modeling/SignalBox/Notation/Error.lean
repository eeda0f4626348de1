import SignalBox.Notation.Token

namespace SignalBox
namespace Notation

/-!
# Faults of a cell

The causes for which a text is no cell, and for which a condition has no text.
-/

/-- What about a condition cannot be written. -/
inductive Unwritable where
  | negationOutsideDisjunction
  | negationWithoutLeftOperand
  | negationInsideDisjunction
deriving DecidableEq, Repr

def Unwritable.message : Unwritable → String
  | negationOutsideDisjunction => "negation outside a disjunction"
  | negationWithoutLeftOperand => "negation without a left operand"
  | negationInsideDisjunction => "negation inside a disjunction"

inductive Error where
  | unknownCharacter (character : Char)
  /-- A sequence ends without the token that closes its bracket. -/
  | unclosedBracket (expected : Token)
  | unexpectedToken (found : Token)
  | unknownNeighbour (home : String) (hops : Nat)
  | unreachablePlant (home : String) (target : String)
  /-- Parentheses for a reversed object hold another number of items than one. -/
  | reverseScope (items : Nat)
  /-- A timer stands behind something other than an object. -/
  | danglingTimer (seconds : Seconds)
  | emptyGroup
  | unwritable (cause : Unwritable)
deriving DecidableEq, Repr

def Error.message : Error → String
  | unknownCharacter character => "unknown token '" ++ String.singleton character ++ "'"
  | unclosedBracket expected => "unclosed bracket, expected '" ++ expected.text ++ "'"
  | unexpectedToken found => "unexpected '" ++ found.text ++ "'"
  | unknownNeighbour home hops =>
    "no plant " ++ Text.ofNat hops ++ " hop(s) away from " ++ home
  | unreachablePlant home target => "plant " ++ target ++ " is not reachable from " ++ home
  | reverseScope items =>
    "reverse scope must hold exactly one item, found " ++ Text.ofNat items
  | danglingTimer seconds =>
    "timer of " ++ Text.ofNat seconds.toNat ++ " s has no preceding object"
  | emptyGroup => "empty group or operand"
  | unwritable cause => "tree has no notation form: " ++ cause.message

end Notation
end SignalBox
