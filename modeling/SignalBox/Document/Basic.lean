import SignalBox.Json.Decode
import SignalBox.Lock.Column
import SignalBox.Plant.Database
import SignalBox.Signal.Aspect
import SignalBox.Text.Numeral
import SignalBox.Time.Rfc3339

namespace SignalBox
namespace Document

/-!
# Words of the documents

How numbers of objects, instants and the values of small types stand in documents.  A
decoder has the name of what it reads, and an encoder that name after `of`.
-/

open Json (Decoder)

/-- The number of an object: an integer of 64 bits. -/
def objectId : Decoder ObjectId :=
  Decoder.natural 64

/-- The number of an object as the name of a member: its digits without leading zeros and
without escapes. -/
def objectKey (name : Json.Name) : Option ObjectId :=
  let digits := name.text.toList
  if name.escaped || digits.length > 1 && digits.head? == some '0' then none
  else (Text.Numeral.read? digits).bind (Text.Numeral.within 64)

/-- Entries by numbers of objects. -/
def byId {α : Type} (value : Decoder α) : Decoder (Table ObjectId α) :=
  Decoder.table objectKey value

/-- Entries by names. -/
def byName {α : Type} (value : Decoder α) : Decoder (Table String α) :=
  Decoder.table (fun name => some name.text) value

def ofById {α : Type} (value : α → Json) (table : Table ObjectId α) : Json :=
  .object (table.entries.map fun entry => (Text.ofNat entry.1, value entry.2))

def ofByName {α : Type} (value : α → Json) (table : Table String α) : Json :=
  .object (table.entries.map fun entry => (entry.1, value entry.2))

/-- An instant, as RFC 3339 text. -/
def timestamp : Decoder Time.Timestamp
  | .string text => Time.Rfc3339.read? text
  | _ => none

def ofTimestamp (instant : Time.Timestamp) : Json :=
  .string (Time.Rfc3339.write instant)

/-- A decoder for values that are written by their names. -/
def named {α : Type} (name : α → String) (values : List α) : Decoder α :=
  Decoder.choice (values.map fun value => (name value, value))

def objectKindName : ObjectKind → String
  | .route => "Route"
  | .lever => "Lever"
  | .switchingMachine => "SwitchingMachine"
  | .trackCircuit => "TrackCircuit"
  | .directionRoute => "DirectionRoute"
  | .directionSelfControlLever => "DirectionSelfControlLever"
  | .routeCentralControlLever => "RouteCentralControlLever"

def objectKind : Decoder ObjectKind :=
  named objectKindName
    [.route, .lever, .switchingMachine, .trackCircuit, .directionRoute,
      .directionSelfControlLever, .routeCentralControlLever]

def ofObjectKind (kind : ObjectKind) : Json :=
  .string (objectKindName kind)

def directionName : Direction → String
  | .normal => "Normal"
  | .reversed => "Reversed"

def direction : Decoder Direction :=
  named directionName [.normal, .reversed]

def ofDirection (direction : Direction) : Json :=
  .string (directionName direction)

def sideName : Side → String
  | .left => "Left"
  | .right => "Right"

def side : Decoder Side :=
  named sideName [.left, .right]

def ofSide (side : Side) : Json :=
  .string (sideName side)

def leverPositionName : LeverPosition → String
  | .left => "Left"
  | .center => "Center"
  | .right => "Right"

def leverPosition : Decoder LeverPosition :=
  named leverPositionName [.left, .center, .right]

def ofLeverPosition (position : LeverPosition) : Json :=
  .string (leverPositionName position)

def aspect : Decoder Aspect :=
  named Aspect.letters Aspect.all

def ofAspect (aspect : Aspect) : Json :=
  .string aspect.letters

def lockKindName : LockKind → String
  | .directLock => "DirectLock"
  | .routeLock => "RouteLock"
  | .signalControl => "SignalControl"
  | .approachLock => "ApproachLock"
  | .detector => "Detector"
  | .directionLock => "DirectionLock"

def lockKind : Decoder LockKind :=
  named lockKindName LockKind.all

def ofLockKind (kind : LockKind) : Json :=
  .string (lockKindName kind)

def lockColumnName : LockColumn → String
  | .switchingMachine => "SwitchingMachine"
  | .directLock => "DirectLock"
  | .signalControl => "SignalControl"
  | .routeLock => "RouteLock"
  | .approachLock => "ApproachLock"
  | .detector => "Detector"
  | .directionLockLeft => "DirectionLockLeft"
  | .directionLockRight => "DirectionLockRight"

def lockColumn : Decoder LockColumn :=
  named lockColumnName
    [.switchingMachine, .directLock, .signalControl, .routeLock, .approachLock, .detector,
      .directionLockLeft, .directionLockRight]

def ofLockColumn (column : LockColumn) : Json :=
  .string (lockColumnName column)

def throwOutKindName : ThrowOutKind → String
  | .withLever => "WithLever"
  | .withoutLever => "WithoutLever"

def throwOutKind : Decoder ThrowOutKind :=
  named throwOutKindName [.withLever, .withoutLever]

def ofThrowOutKind (kind : ThrowOutKind) : Json :=
  .string (throwOutKindName kind)

end Document
end SignalBox
