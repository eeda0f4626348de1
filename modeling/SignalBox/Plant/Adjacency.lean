import SignalBox.Table

namespace SignalBox

/-!
# Neighbouring plants

A cell reaches objects of another plant through a number of brackets.  Each plant has a
list of neighbours, and the plant reached through `hops` brackets is the entry with that
number, counted from one.
-/

/-- The pseudo-plant that owns the track circuits of the block sections. -/
def blockSectionPlant : String := "閉そく"

/-- The list of neighbours of every plant that has one. -/
structure Adjacency where
  neighbours : Table String (List String) := .empty
deriving DecidableEq, Inhabited

namespace Adjacency

/-- Set the neighbours of a plant. -/
def withPlant (adjacency : Adjacency) (plant : String) (neighbours : List String) :
    Adjacency :=
  ⟨adjacency.neighbours.insert plant neighbours⟩

/-- The neighbours of a plant; a plant without a list has none. -/
def neighboursOf (adjacency : Adjacency) (home : String) : List String :=
  (adjacency.neighbours.get? home).getD []

/-- The plant reached from a home plant through a number of brackets. -/
def neighbour? (adjacency : Adjacency) (home : String) : Nat → Option String
  | 0 => none
  | hops + 1 => (adjacency.neighboursOf home)[hops]?

/-- The least number of brackets that reaches a plant from a home plant. -/
def hopsTo? (adjacency : Adjacency) (home target : String) : Option Nat :=
  ((adjacency.neighboursOf home).idxOf? target).map (· + 1)

/-- The number of plants that have a list. -/
def size (adjacency : Adjacency) : Nat :=
  adjacency.neighbours.size

/-- The neighbours along the modelled line. -/
def line : Adjacency where
  neighbours := Table.ofList
    [("TH58", ["TH59", "TH57"]),
     ("TH59", ["TH58"]),
     ("TH61", ["TH62"]),
     ("TH62", ["TH63", "TH61"]),
     ("TH63", ["TH64", "TH62"]),
     ("TH64", ["TH65", "TH63"]),
     ("TH65", ["TH66S", "TH64"]),
     ("TH66S", ["TH65"]),
     ("TH67", []),
     ("TH70", ["TH71"]),
     ("TH71", ["TH70"]),
     ("TH75", ["TH76", blockSectionPlant]),
     ("TH76", ["TH75"])]

end Adjacency

end SignalBox
