import SignalBox.Lock.Column
import SignalBox.Text.Numeral

namespace SignalBox

/-!
# Known gaps of the master data

Two areas of the master data are incomplete: one plant lacks some of its switching
machines, and the direction routes of another one cannot serve as lock levers.  A token
that cannot be resolved may be skipped if it lies in one of them.
-/

inductive KnownGap where
  /-- The switching machines of a plant with numbers in a range are not modelled. -/
  | switchingMachines (plant : String) (first last : Nat)
  /-- The direction routes of a plant cannot be the lock levers of a neighbour. -/
  | directionRoutes (plant : String)
deriving DecidableEq, Repr

namespace KnownGap

def all : List KnownGap :=
  [switchingMachines "TH66S" 61 78, directionRoutes "TH57"]

/-- The number of a switching machine, with or without W in front. -/
def machineNumber? (name : String) : Option Nat :=
  (Text.Numeral.readSigned? (name.toList.dropWhile (· == 'W'))).bind (Text.Numeral.within 32)

/-- The name that decides whether a switching machine is meant: the token in the
switching-machine column and the owner in the detector column. -/
def machineName? (owner token : String) : LockColumn → Option String
  | .switchingMachine => some token
  | .detector => some owner
  | _ => none

/-- Whether a failure on a token, in a cell of an owner, lies in the gap. -/
def covers (gap : KnownGap) (plant owner token : String) (column : LockColumn) : Bool :=
  match gap with
  | switchingMachines gapPlant first last =>
    plant == gapPlant &&
      ((machineName? owner token column).bind machineNumber?).any fun number =>
        first ≤ number && number ≤ last
  | directionRoutes gapPlant =>
    plant == gapPlant && column.directionSide?.isSome && (Side.ofSuffix? token).isSome

end KnownGap

/-- Whether a failure lies in some known gap. -/
def inKnownGap (plant owner token : String) (column : LockColumn) : Bool :=
  KnownGap.all.any fun gap => gap.covers plant owner token column

end SignalBox
