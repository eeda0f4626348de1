import SignalBox.Notation.Cell
import SignalBox.Notation.Error
import SignalBox.Plant.Adjacency

namespace SignalBox
namespace Notation

/-!
# Writing a cell

The text of a parsed cell as it would be written at a home plant.  Conjunctions and
disjunctions stand in curly brackets, except for the conjunction that is the whole cell
and the one that is a numbered alternative.  Every name is wrapped on its own in what its
leaf says.  A negation can only be written as the last part of a disjunction.
-/

namespace Printer

/-- Texts with a blank between neighbours. -/
def spaced (texts : List String) : String :=
  " ".intercalate texts

/-- Texts with the or sign between neighbours. -/
def alternatives (texts : List String) : String :=
  (" " ++ String.ofList orChars ++ " ").intercalate texts

/-- Texts in curly brackets. -/
def braced (text : String) : String :=
  "\x7b" ++ text ++ "\x7d"

/-- A text between a bracket's opening and closing characters. -/
def bracketed (bracket : Bracket) (text : String) : String :=
  String.ofList bracket.openingChars ++ text ++ String.ofList bracket.closingChars

/-- The text of a name: reversed innermost, then unlocking, the neighbour's brackets and
the timer. -/
def reference (adjacency : Adjacency) (home : String) (leaf : Reference) :
    Except Error String := do
  let turned := if leaf.reversed then bracketed .paren leaf.token else leaf.token
  let unlocked := if leaf.subjectToUnlock then bracketed .unlock turned else turned
  let placed ←
    if leaf.plant = home then .ok unlocked
    else
      match adjacency.hopsTo? home leaf.plant with
      | some hops => .ok (bracketed (.neighbour hops) unlocked)
      | none => .error (.unreachablePlant home leaf.plant)
  match leaf.timer with
  | some seconds => .ok (placed ++ (Token.timer seconds).text)
  | none => .ok placed

mutual

/-- The text of a condition inside a cell. -/
def node (adjacency : Adjacency) (home : String) : Tree → Except Error String
  | .leaf value => reference adjacency home value
  | .all parts => (nodes adjacency home parts).map fun texts => braced (spaced texts)
  | .any parts => (disjunction adjacency home [] parts).map braced
  | .not _ => .error (.unwritable .negationOutsideDisjunction)

/-- The texts of several conditions. -/
def nodes (adjacency : Adjacency) (home : String) : List Tree → Except Error (List String)
  | [] => .ok []
  | part :: rest => do
    let first ← node adjacency home part
    let others ← nodes adjacency home rest
    .ok (first :: others)

/-- The text of the parts of a disjunction behind the parts that are written.  The last
part may be a negation, which is written as an exception to the parts before it. -/
def disjunction (adjacency : Adjacency) (home : String) (written : List String) :
    List Tree → Except Error String
  | [] => .error .emptyGroup
  | [.not (.not _)] =>
    .error (.unwritable (if written.isEmpty then .negationWithoutLeftOperand
      else .negationInsideDisjunction))
  | [.not part] =>
    if written.isEmpty then .error (.unwritable .negationWithoutLeftOperand)
    else
      (node adjacency home part).map fun text =>
        alternatives written ++ " " ++ String.singleton exceptionChar ++ " " ++ text
  | [part] => (node adjacency home part).map fun text => alternatives (written ++ [text])
  | .not _ :: _ => .error (.unwritable .negationInsideDisjunction)
  | part :: rest => do
    let text ← node adjacency home part
    disjunction adjacency home (written ++ [text]) rest

end

/-- The text of one numbered alternative. -/
def numbered (adjacency : Adjacency) (home : String) : Tree → Except Error String
  | .all parts => (nodes adjacency home parts).map fun texts => bracketed .paren (spaced texts)
  | tree => node adjacency home tree

end Printer

/-- The text of a cell as written at a home plant. -/
def render (adjacency : Adjacency) (home : String) : Cell → Except Error String
  | .clause (.all parts) => (Printer.nodes adjacency home parts).map Printer.spaced
  | .clause tree => Printer.node adjacency home tree
  | .alternatives trees =>
    (trees.mapM (Printer.numbered adjacency home)).map Printer.spaced

end Notation
end SignalBox
