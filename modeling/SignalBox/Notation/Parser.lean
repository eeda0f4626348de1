import SignalBox.Lock.Column
import SignalBox.Notation.Cell
import SignalBox.Notation.Lexer
import SignalBox.Plant.Adjacency

namespace SignalBox
namespace Notation

/-!
# Parsing a cell

A sequence is read item by item up to the token that closes it.  The brackets around a
name decide what its leaf says; total control is read and dropped.  The exception sign and
the or sign take everything that the sequence holds so far as their left operand and
everything up to the closing token as their right one, so both associate to the right.

Parentheses depend on the column: in a route-lock column they hold one numbered
alternative, elsewhere one reversed object.
-/

/-- Where a cell is written: the home plant, its neighbours and the column. -/
structure Site where
  adjacency : Adjacency
  home : String
  column : LockColumn

/-- What the brackets around a place say. -/
structure Scope where
  plant : String
  reversed : Bool
  subjectToUnlock : Bool
deriving DecidableEq, Repr

/-- The leaf of a name in a scope. -/
def Scope.reference (scope : Scope) (token : String) : Reference where
  token := token
  plant := scope.plant
  reversed := scope.reversed
  subjectToUnlock := scope.subjectToUnlock

/-- One condition for the items of an operand; an operand has at least one. -/
def group (items : List Tree) : Except Error Tree :=
  if items.isEmpty then .error .emptyGroup else .ok (.conjunction items)

/-- Give the last item a timer; only an object can have one. -/
def setTimer (seconds : Seconds) (items : List Tree) : Except Error (List Tree) :=
  match items.getLast? with
  | some (.leaf reference) =>
    .ok (items.dropLast ++ [.leaf { reference with timer := some seconds }])
  | _ => .error (.danglingTimer seconds)

/-- An exception: the left operand holds or the right one does not. -/
def exception (left right : Tree) : Tree :=
  .any [left, .not right]

/-- An alternative: a disjunction on the right is continued. -/
def alternative (left : Tree) : Tree → Tree
  | .any parts => .any (left :: parts)
  | right => .any [left, right]

namespace Site

/-- The scope of a whole cell. -/
def scope (site : Site) : Scope where
  plant := site.home
  reversed := false
  subjectToUnlock := false

/-- The scope inside a bracket.  Hops always count from the home plant. -/
def enter (site : Site) (scope : Scope) : Bracket → Except Error Scope
  | .neighbour hops =>
    match site.adjacency.neighbour? site.home hops with
    | some plant => .ok { scope with plant := plant }
    | none => .error (.unknownNeighbour site.home hops)
  | .paren =>
    .ok (if site.column.hasAlternatives then scope else { scope with reversed := true })
  | .unlock => .ok { scope with subjectToUnlock := true }
  | .group => .ok scope
  | .totalControl => .ok scope

/-- The items that a bracket contributes to the sequence around it. -/
def leave (site : Site) (items : List Tree) : Bracket → Except Error (List Tree)
  | .group => if items.isEmpty then .error .emptyGroup else .ok items
  | .totalControl => .ok []
  | .neighbour _ => .ok items
  | .unlock => .ok items
  | .paren =>
    if site.column.hasAlternatives then
      if items.isEmpty then .error .emptyGroup else .ok [.all items]
    else
      match items with
      | [item] => .ok [item]
      | items => .error (.reverseScope items.length)

end Site

/-- What a reader of the tokens `tokens` returns: a value and tokens that are left. -/
abbrev Reading (α : Type) (tokens : List Token) :=
  { reading : α × List Token // reading.2.length ≤ tokens.length }

/-- The tokens behind an expected token. -/
def expect (expected : Token) : (tokens : List Token) → Except Error (Reading Unit tokens)
  | [] => .error (.unclosedBracket expected)
  | found :: rest =>
    if found = expected then .ok ⟨((), rest), Nat.le_succ _⟩
    else .error (.unclosedBracket expected)

/-- Read the items of a sequence up to its closing token or the end.  `items` are the
ones read before. -/
def sequence (site : Site) (scope : Scope) (items : List Tree) :
    (tokens : List Token) → Except Error (Reading (List Tree) tokens)
  | [] => .ok ⟨(items, []), Nat.le_refl _⟩
  | .closing bracket :: rest => .ok ⟨(items, .closing bracket :: rest), Nat.le_refl _⟩
  | .name token :: rest => do
    let ⟨reading, short⟩ ← sequence site scope (items ++ [.leaf (scope.reference token)]) rest
    .ok ⟨reading, Nat.le_succ_of_le short⟩
  | .timer seconds :: rest => do
    let timed ← setTimer seconds items
    let ⟨reading, short⟩ ← sequence site scope timed rest
    .ok ⟨reading, Nat.le_succ_of_le short⟩
  | .unlessSign :: rest => do
    let left ← group items
    let ⟨(operand, remaining), short⟩ ← sequence site scope [] rest
    let right ← group operand
    .ok ⟨([exception left right], remaining), Nat.le_succ_of_le short⟩
  | .orSign :: rest => do
    let left ← group items
    let ⟨(operand, remaining), short⟩ ← sequence site scope [] rest
    let right ← group operand
    .ok ⟨([alternative left right], remaining), Nat.le_succ_of_le short⟩
  | .opening bracket :: rest => do
    let inner ← site.enter scope bracket
    let ⟨(held, behind), short⟩ ← sequence site inner [] rest
    let ⟨((), remaining), shorter⟩ ← expect (.closing bracket) behind
    let contributed ← site.leave held bracket
    let ⟨reading, shortest⟩ ← sequence site scope (items ++ contributed) remaining
    .ok ⟨reading, Nat.le_succ_of_le (Nat.le_trans shortest (Nat.le_trans shorter short))⟩
termination_by tokens => tokens.length
decreasing_by
  all_goals simp only [List.length_cons] at *
  all_goals omega

/-- The cell that a list of tokens says; none for tokens that say nothing. -/
def parseTokens (site : Site) (tokens : List Token) : Except Error (Option Cell) := do
  let ⟨(items, rest), _⟩ ← sequence site site.scope [] tokens
  match rest, items with
  | token :: _, _ => .error (.unexpectedToken token)
  | [], [] => .ok none
  | [], items =>
    .ok (some (if site.column.hasAlternatives then .alternatives items
      else .clause (.conjunction items)))

/-- Parse the text of a cell; none for an empty one. -/
def parse (site : Site) (cell : String) : Except Error (Option Cell) := do
  let tokens ← tokenize cell
  parseTokens site tokens

end Notation
end SignalBox
