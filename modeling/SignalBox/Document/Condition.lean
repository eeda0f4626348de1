import SignalBox.Document.Basic
import SignalBox.Lock.Requirement

namespace SignalBox
namespace Document

/-!
# Conditions in documents

A condition is an object with one member, whose name says what kind of condition it is.
The name for a leaf is given by whoever knows what the leaves are.
-/

open Json (Decoder)
open Json.Record (decoder required optional)

section Trees

variable {α : Type} (leafName : String)

mutual

/-- A condition, given the name and the decoder of its leaves. -/
def condition (leaf : Decoder α) : Json → Option (Condition α)
  | .object [(⟨"And", _⟩, .array items)] => (conditions leaf items).map .all
  | .object [(⟨"Or", _⟩, .array items)] => (conditions leaf items).map .any
  | .object [(⟨"Not", _⟩, part)] => (condition leaf part).map .not
  | .object [(name, content)] =>
    if name.text = leafName then (leaf content).map .leaf else none
  | _ => none

/-- Several conditions. -/
def conditions (leaf : Decoder α) : List Json → Option (List (Condition α))
  | [] => some []
  | item :: rest => do
    let first ← condition leaf item
    let others ← conditions leaf rest
    some (first :: others)

end

mutual

def ofCondition (leaf : α → Json) : Condition α → Json
  | .leaf content => .object [(leafName, leaf content)]
  | .all parts => .object [("And", .array (ofConditions leaf parts))]
  | .any parts => .object [("Or", .array (ofConditions leaf parts))]
  | .not part => .object [("Not", ofCondition leaf part)]

def ofConditions (leaf : α → Json) : List (Condition α) → List Json
  | [] => []
  | part :: rest => ofCondition leaf part :: ofConditions leaf rest

end

end Trees

/-- A requirement; only its positions and its timer can be left out. -/
def requirement : Decoder Requirement := decoder do
  let target ← required "target" objectId
  let direction ← optional "direction" direction
  let side ← optional "side" side
  let timer ← optional "timer_seconds" Decoder.word32
  let subjectToUnlock ← required "subject_to_unlock" Decoder.bool
  pure { target, direction, side, timer, subjectToUnlock }

def ofSeconds (seconds : Notation.Seconds) : Json :=
  .ofNat seconds.toNat

def ofRequirement (leaf : Requirement) : Json :=
  .object
    [("target", .ofNat leaf.target),
     ("direction", .ofOption ofDirection leaf.direction),
     ("side", .ofOption ofSide leaf.side),
     ("timer_seconds", .ofOption ofSeconds leaf.timer),
     ("subject_to_unlock", .bool leaf.subjectToUnlock)]

/-- A resolved condition. -/
def clause : Decoder Clause :=
  condition "Object" requirement

def ofClause : Clause → Json :=
  ofCondition "Object" ofRequirement

end Document
end SignalBox
