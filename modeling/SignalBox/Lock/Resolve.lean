import SignalBox.Lock.Requirement
import SignalBox.Notation.Cell
import SignalBox.Plant.Database
import SignalBox.Plant.Naming
import SignalBox.Text.DecimalDigit

namespace SignalBox

/-!
# Resolving names

The objects that a token of a cell stands for.  A token may be read in several ways, and
six strategies are tried in a fixed order; the first one that finds something decides.

The switching-machine column only names machines by their number, and no other column
names machines.  Leaves of the block-section pseudo-plant are track circuits of the
approach-lock column.
-/

open Notation (Reference Tree)

/-- A token for which there are no objects, or too many. -/
inductive ResolveError where
  | unresolved (token plant : String)
  | ambiguous (token plant : String) (candidates : Nat)
deriving DecidableEq, Repr

def ResolveError.message : ResolveError → String
  | unresolved token plant => "no object found for '" ++ token ++ "' at " ++ plant
  | ambiguous token plant candidates =>
    "'" ++ token ++ "' at " ++ plant ++ " matches " ++ Text.ofNat candidates ++
      " throw-out controls"

/-- The start of a route: the number of its lever, which may end in a Z, and a side.
The text behind it is returned with the number. -/
def splitLever? (token : List Char) : Option (List Char × List Char) :=
  let digits := token.takeWhile Text.isDecimalDigit
  if digits.isEmpty then none
  else
    match token.dropWhile Text.isDecimalDigit with
    | side :: rest =>
      if side == 'R' || side == 'L' then
        match rest with
        | 'Z' :: rest => some (digits ++ ['Z'], rest)
        | rest => some (digits, rest)
      else none
    | [] => none

/-- The number of a track circuit of a block section: digits and a T.  A number that is
not in ASCII digits or needs more than 32 bits is none. -/
def blockSectionNumber? (token : List Char) : Option Nat :=
  let digits := token.takeWhile Text.isDecimalDigit
  if token.dropWhile Text.isDecimalDigit = ['T'] then
    (Text.Numeral.read? digits).bind (Text.Numeral.within 32)
  else none

namespace Database

/-- The lever whose number a token begins with, and the text behind its side. -/
def splitLever? (plant : Database) (reference : Reference) :
    Option (PlantObject × List Char) := do
  let (number, rest) ← SignalBox.splitLever? reference.token.toList
  let name := Naming.lever reference.plant (String.ofList number)
  let lever ← plant.findKind? name .lever
  some (lever, rest)

/-- The throw-out controls from a route of a lever to a route of a button. -/
def throwOutsBetween (plant : Database) (lever : ObjectId) (button : String) : List ThrowOut :=
  ((plant.routesFromLever lever).flatMap plant.throwOutsFrom).filter fun control =>
    (plant.routesToButton button).contains control.target

end Database

/-- The ways to read a token. -/
inductive Strategy where
  /-- The number of a switching machine. -/
  | switchingMachine
  /-- The number of a direction route and a side. -/
  | directionRoute
  /-- The name of an object. -/
  | exactName
  /-- The start of a route, for all routes of the lever. -/
  | routesFromLever
  /-- The start of a route and a button, for a throw-out control between the two. -/
  | leverToButton
  /-- A track circuit of a block section. -/
  | blockTrackCircuit
deriving DecidableEq, Repr

namespace Strategy

/-- The order in which strategies are tried. -/
def order : List Strategy :=
  [switchingMachine, directionRoute, exactName, routesFromLever, leverToButton,
    blockTrackCircuit]

/-- The words for a strategy. -/
def description : Strategy → String
  | switchingMachine => "switching machine"
  | directionRoute => "direction route"
  | exactName => "exact name"
  | routesFromLever => "routes from lever"
  | leverToButton => "lever to button"
  | blockTrackCircuit => "block-section track circuit"

/-- Whether a strategy reads the tokens of a column that stand in a plant. -/
def applies (strategy : Strategy) (column : LockColumn) (plant : String) : Bool :=
  match strategy with
  | switchingMachine => column == .switchingMachine && plant != blockSectionPlant
  | blockTrackCircuit => column == .approachLock
  | _ => column != .switchingMachine && plant != blockSectionPlant

/-- The objects that a strategy finds; none where it finds nothing. -/
def find (strategy : Strategy) (plant : Database) (reference : Reference) :
    Except ResolveError (Option (List ObjectId)) :=
  let single (object : Option PlantObject) : Except ResolveError (Option (List ObjectId)) :=
    .ok (object.map fun object => [object.id])
  match strategy with
  | switchingMachine =>
    single (plant.findKind? (Naming.switchingMachine reference.plant reference.token)
      .switchingMachine)
  | directionRoute =>
    match Side.ofSuffix? reference.token with
    | none => .ok none
    | some _ =>
      let start := String.ofList reference.token.toList.dropLast
      single (plant.findKind? (Naming.directionRoute reference.plant start) .directionRoute)
  | exactName =>
    let name := Naming.fullWidth (Naming.route reference.plant reference.token "")
    single ((plant.find? name).filter fun object => object.kind != .switchingMachine)
  | routesFromLever =>
    match plant.splitLever? reference with
    | some (lever, []) =>
      let routes := plant.routesFromLever lever.id
      .ok (if routes.isEmpty then none else some routes)
    | _ => .ok none
  | leverToButton =>
    match plant.splitLever? reference with
    | some (lever, head :: rest) =>
      let button := Naming.button reference.plant (String.ofList (head :: rest))
      match plant.throwOutsBetween lever.id button with
      | [] => .ok none
      | [control] => .ok (some [control.source, control.target])
      | controls =>
        .error (.ambiguous reference.token reference.plant controls.length)
    | _ => .ok none
  | blockTrackCircuit =>
    let name := match blockSectionNumber? reference.token.toList with
      | some number => Naming.blockTrackCircuit number
      | none => reference.token
    single (plant.findKind? name .trackCircuit)

/-- The objects that a strategy finds in a column. -/
def attempt (strategy : Strategy) (plant : Database) (column : LockColumn)
    (reference : Reference) : Except ResolveError (Option (List ObjectId)) :=
  if strategy.applies column reference.plant then strategy.find plant reference else .ok none

/-- The objects that the first successful one of several strategies finds. -/
def firstOf (plant : Database) (column : LockColumn) (reference : Reference) :
    List Strategy → Except ResolveError (List ObjectId)
  | [] => .error (.unresolved reference.token reference.plant)
  | strategy :: rest => do
    match ← strategy.attempt plant column reference with
    | some targets => .ok targets
    | none => firstOf plant column reference rest

end Strategy

namespace Database

/-- The objects that a leaf stands for. -/
def targets (plant : Database) (column : LockColumn) (reference : Reference) :
    Except ResolveError (List ObjectId) :=
  Strategy.firstOf plant column reference Strategy.order

/-- What a leaf asks of an object.  Track circuits and direction routes have no normal or
reversed position, and only direction routes have a side. -/
def requirement (plant : Database) (reference : Reference) (target : ObjectId) :
    Requirement :=
  let kind := (plant.object? target).map PlantObject.kind
  let position := if reference.reversed then Direction.reversed else Direction.normal
  { target
    direction :=
      if kind = some .trackCircuit ∨ kind = some .directionRoute then none else some position
    side := if kind = some .directionRoute then Side.ofSuffix? reference.token else none
    timer := reference.timer
    subjectToUnlock := reference.subjectToUnlock }

/-- Resolve every leaf of a condition.  A leaf that stands for several objects becomes
their conjunction. -/
def resolve (plant : Database) (column : LockColumn) (tree : Tree) :
    Except ResolveError Clause :=
  tree.expand fun reference =>
    (plant.targets column reference).map fun targets =>
      targets.map (plant.requirement reference)

/-- Resolve the lock lever of a direction-lock cell, which is a direction route. -/
def resolveDirectionRoute (plant : Database) (column : LockColumn) (reference : Reference) :
    Except ResolveError Requirement := do
  match ← Strategy.directionRoute.attempt plant column reference with
  | some (target :: _) => .ok (plant.requirement reference target)
  | _ => .error (.unresolved reference.token reference.plant)

end Database

end SignalBox
