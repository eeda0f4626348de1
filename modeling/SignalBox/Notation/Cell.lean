import SignalBox.Condition
import SignalBox.Notation.Token

namespace SignalBox
namespace Notation

/-!
# Parsed cells

What a cell says once its brackets are gone.  Its leaves still name objects by the tokens
of the table; each one carries what the brackets around it said.
-/

/-- A name of a cell together with what the brackets around it say. -/
structure Reference where
  token : String
  /-- The plant in which the token names an object. -/
  plant : String
  reversed : Bool := false
  subjectToUnlock : Bool := false
  timer : Option Seconds := none
deriving DecidableEq, Repr

/-- A condition over names. -/
abbrev Tree := Condition Reference

/-- A cell that is not empty. -/
inductive Cell where
  | clause (tree : Tree)
  /-- The numbered alternatives of a route-lock cell. -/
  | alternatives (trees : List Tree)
deriving DecidableEq

namespace Cell

/-- The conditions of a cell, in order. -/
def trees : Cell → List Tree
  | clause tree => [tree]
  | alternatives trees => trees

/-- The names of a cell from left to right. -/
def references (cell : Cell) : List Reference :=
  cell.trees.flatMap Condition.leaves

end Cell

end Notation
end SignalBox
