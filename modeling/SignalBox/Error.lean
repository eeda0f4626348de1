import SignalBox.Lock.Row
import SignalBox.Notation.Error
import SignalBox.Plant.Object

namespace SignalBox

/-!
# Faults of loading and evaluating

Every fault is a cause with the things it concerns.  The words for it are given once, by
`message`.
-/

/-- Something that an evaluation needs and that is not there. -/
inductive Missing where
  /-- The live state of an object of a kind. -/
  | state (kind : ObjectKind) (id : ObjectId)
  | button (name : String)
  | keyLever (id : ObjectId)
  | object (id : ObjectId)
  | routeDefinition (id : ObjectId)
deriving DecidableEq, Repr

def Missing.description : Missing → String
  | state kind id => kind.description ++ " " ++ Text.ofNat id
  | button name => "button " ++ name
  | keyLever id => "key lever " ++ Text.ofNat id
  | object id => "object " ++ Text.ofNat id
  | routeDefinition id => "route definition " ++ Text.ofNat id

/-- An inconsistency of the master data. -/
inductive PlantFault where
  | duplicateId (id : ObjectId)
  | duplicateName (name : String)
  | wrongKind (name : String) (kind expected : ObjectKind)
  | unknownId (kind : ObjectKind) (id : ObjectId)
  | throwOutEnd (source id : ObjectId)
  /-- A lever-less control whose target is not a route without lever. -/
  | throwOutTarget (source target : ObjectId)
  | unknownOwner (name : String) (context : LockContext)
  /-- A direction-lock cell owned by something other than a direction route. -/
  | directionLockOwner (name : String) (kind : ObjectKind) (context : LockContext)
  | duplicateSignalType (name : String)
  | unknownSignalType (signal typeName : String)
  | duplicateSignal (name : String)
  | signalReference (signal : String) (expected : ObjectKind) (name : String) (kind : ObjectKind)
deriving DecidableEq, Repr

def PlantFault.message : PlantFault → String
  | duplicateId id => "duplicate object id " ++ Text.ofNat id
  | duplicateName name => "duplicate object name " ++ name
  | wrongKind name kind expected =>
    name ++ " is a " ++ kind.description ++ ", expected a " ++ expected.description
  | unknownId kind id => "unknown " ++ kind.description ++ " id " ++ Text.ofNat id
  | throwOutEnd source id =>
    "throw-out control from " ++ Text.ofNat source ++ " refers to unknown object " ++
      Text.ofNat id
  | throwOutTarget source target =>
    "lever-less throw-out control from " ++ Text.ofNat source ++ " targets " ++
      Text.ofNat target ++ ", which is not a lever-less route"
  | unknownOwner name context =>
    "lock table refers to unknown object " ++ name ++ " (" ++ context.description ++ ")"
  | directionLockOwner name kind context =>
    "direction lock on " ++ name ++ ", which is a " ++ kind.description ++ " (" ++
      context.description ++ ")"
  | duplicateSignalType name => "duplicate signal type " ++ name
  | unknownSignalType signal typeName =>
    "signal " ++ signal ++ " has unknown type " ++ typeName
  | duplicateSignal name => "duplicate signal " ++ name
  | signalReference signal expected name kind =>
    "signal " ++ signal ++ " refers to " ++ expected.description ++ " " ++ name ++
      " which is a " ++ kind.description

/-- A fault of loading or evaluating an interlocking. -/
inductive Error where
  | parse (context : LockContext) (cause : Notation.Error)
  | resolution (context : LockContext) (token plant : String)
  | ambiguousResolution (context : LockContext) (token plant : String) (candidates : Nat)
  | evaluation (missing : Missing)
  | plantData (fault : PlantFault)
  /-- The clock was moved out of the range of timestamps. -/
  | clockOutOfRange
  /-- The live state is gone for good. -/
  | stateLost
deriving DecidableEq, Repr

namespace Error

def message : Error → String
  | parse context cause =>
    "Failed to parse lock condition " ++ context.description ++ ": " ++ cause.message
  | resolution context token plant =>
    "Failed to resolve '" ++ token ++ "' at " ++ plant ++ " in " ++ context.description
  | ambiguousResolution context token plant candidates =>
    "'" ++ token ++ "' at " ++ plant ++ " matches " ++ Text.ofNat candidates ++
      " throw-out controls in " ++ context.description
  | evaluation missing => "Evaluation failed: no live state for " ++ missing.description
  | plantData fault => "Invalid plant data: " ++ fault.message
  | clockOutOfRange => "Clock moved out of range"
  | stateLost => "Interlocking state lock poisoned"

/-- The messages from a fault down to its cause. -/
def chain : Error → List String
  | parse context cause => [(parse context cause).message, cause.message]
  | error => [error.message]

end Error

end SignalBox
