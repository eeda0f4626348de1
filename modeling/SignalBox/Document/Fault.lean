import SignalBox.Json.Basic
import SignalBox.Lock.Resolve

namespace SignalBox
namespace Document

/-!
# Faults in documents

A fault is written as its kind and its words.
-/

/-- A fault of a kind. -/
def ofFault (kind message : String) : Json :=
  .object [("error", .string kind), ("message", .string message)]

def notationErrorKind : Notation.Error → String
  | .unknownCharacter _ => "UnknownToken"
  | .unclosedBracket _ => "UnclosedBracket"
  | .unexpectedToken _ => "UnexpectedToken"
  | .unknownNeighbour _ _ => "UnknownNeighbor"
  | .unreachablePlant _ _ => "UnreachablePlant"
  | .reverseScope _ => "InvalidReverseScope"
  | .danglingTimer _ => "DanglingTimer"
  | .emptyGroup => "EmptyGroup"
  | .unwritable _ => "Unrepresentable"

def ofNotationError (error : Notation.Error) : Json :=
  ofFault (notationErrorKind error) error.message

def resolveErrorKind : ResolveError → String
  | .unresolved _ _ => "Unresolved"
  | .ambiguous _ _ _ => "Ambiguous"

def ofResolveError (error : ResolveError) : Json :=
  ofFault (resolveErrorKind error) error.message

def errorKind : Error → String
  | .parse _ _ => "Parse"
  | .resolution _ _ _ => "Resolution"
  | .ambiguousResolution _ _ _ _ => "AmbiguousResolution"
  | .evaluation _ => "Evaluation"
  | .plantData _ => "InvalidPlantData"
  | .clockOutOfRange => "ClockOutOfRange"
  | .stateLost => "StatePoisoned"

def ofError (error : Error) : Json :=
  ofFault (errorKind error) error.message

end Document
end SignalBox
