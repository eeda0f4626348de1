namespace SignalBox

/-!
# Signal aspects

The five aspects from the most restrictive to the least, and the tables by which a signal
answers the aspect ahead of it.
-/

inductive Aspect where
  /-- Stop. -/
  | r
  /-- Restricted speed. -/
  | yy
  /-- Caution. -/
  | y
  /-- Reduced speed. -/
  | yg
  /-- Proceed. -/
  | g
deriving DecidableEq, Repr, Inhabited

namespace Aspect

/-- The aspects from the most restrictive to the least. -/
def all : List Aspect :=
  [r, yy, y, yg, g]

/-- The place of an aspect in the order of restriction; stop has place zero. -/
def rank : Aspect → Nat
  | r => 0
  | yy => 1
  | y => 2
  | yg => 3
  | g => 4

/-- The letters of an aspect. -/
def letters : Aspect → String
  | r => "R"
  | yy => "YY"
  | y => "Y"
  | yg => "YG"
  | g => "G"

instance : LE Aspect := ⟨fun first second => first.rank ≤ second.rank⟩

instance : LT Aspect := ⟨fun first second => first.rank < second.rank⟩

instance : DecidableLE Aspect := fun first second =>
  inferInstanceAs (Decidable (first.rank ≤ second.rank))

instance : DecidableLT Aspect := fun first second =>
  inferInstanceAs (Decidable (first.rank < second.rank))

/-- The less restrictive one of two aspects. -/
def best (first second : Aspect) : Aspect :=
  if first ≤ second then second else first

end Aspect

/-- What a signal of a type shows for each aspect ahead. -/
structure SignalType where
  name : String
  r : Aspect
  yy : Aspect
  y : Aspect
  yg : Aspect
  g : Aspect
deriving DecidableEq, Repr

/-- What a signal of the type shows for an aspect ahead. -/
def SignalType.indication (table : SignalType) : Aspect → Aspect
  | .r => table.r
  | .yy => table.yy
  | .y => table.y
  | .yg => table.yg
  | .g => table.g

end SignalBox
