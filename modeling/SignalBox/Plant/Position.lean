namespace SignalBox

/-!
# Positions

The positions of switching machines, key levers, direction routes and route levers, and
what a position asked for by a lock condition means for a lever of three positions.
-/

/-- The position of a switching machine or of a key lever. -/
inductive Direction where
  | normal
  | reversed
deriving DecidableEq, Repr, Inhabited

/-- The setting of a direction route. -/
inductive Side where
  | left
  | right
deriving DecidableEq, Repr, Inhabited

/-- The side named by the last letter of a table token. -/
def Side.ofSuffix? (token : String) : Option Side :=
  match token.toList.getLast? with
  | some 'L' => some left
  | some 'R' => some right
  | _ => none

/-- The position of a route lever. -/
inductive LeverPosition where
  | left
  | center
  | right
deriving DecidableEq, Repr, Inhabited

namespace LeverPosition

def isCentered (position : LeverPosition) : Bool :=
  position == center

/-- Whether the lever stands where a condition asks for it: normal is the centre, and
reversed is either side. -/
def satisfies (position : LeverPosition) : Direction → Bool
  | .normal => position.isCentered
  | .reversed => !position.isCentered

end LeverPosition

end SignalBox
