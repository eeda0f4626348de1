import SignalBox.Document.Condition
import SignalBox.Notation.Cell

namespace SignalBox
namespace Document

/-!
# Parsed cells in documents

A name is written with everything that its brackets say; when it is read, what is left out
or null is not said.  A cell is an object with one member, which tells a single condition
from the numbered alternatives of a route lock.
-/

open Json (Decoder)
open Json.Record (objectDecoder required defaulting)

/-- A name of a cell. -/
def reference : Decoder Notation.Reference := objectDecoder do
  let token ← required "token" Decoder.string
  let plant ← required "plant" Decoder.string
  let reversed ← defaulting "reversed" none (Decoder.nullable Decoder.bool)
  let subjectToUnlock ← defaulting "subject_to_unlock" none (Decoder.nullable Decoder.bool)
  let timer ← defaulting "timer_seconds" none (Decoder.nullable Decoder.word32)
  pure ⟨token, plant, reversed.getD false, subjectToUnlock.getD false, timer⟩

def ofReference (leaf : Notation.Reference) : Json :=
  .object
    [("token", .string leaf.token),
     ("plant", .string leaf.plant),
     ("reversed", .bool leaf.reversed),
     ("subject_to_unlock", .bool leaf.subjectToUnlock),
     ("timer_seconds", .ofOption ofSeconds leaf.timer)]

/-- A condition over names. -/
def tree : Decoder Notation.Tree :=
  condition "Leaf" reference

def ofTree : Notation.Tree → Json :=
  ofCondition "Leaf" ofReference

/-- A cell.  Alternatives are only read where there is no single condition. -/
def cell : Decoder Notation.Cell := fun json =>
  match json.member "Clause" with
  | .null => (Decoder.list tree (json.member "Alternatives")).map .alternatives
  | single => (tree single).map .clause

def ofCell : Notation.Cell → Json
  | .clause single => .object [("Clause", ofTree single)]
  | .alternatives trees => .object [("Alternatives", .ofList ofTree trees)]

/-- A token: its name, and what it carries behind it. -/
def ofToken : Notation.Token → Json
  | .opening .totalControl => .array [.string "OpenTotalControl"]
  | .opening (.neighbour hops) => .array [.string "OpenNeighbor", .ofNat hops]
  | .opening .group => .array [.string "OpenGroup"]
  | .opening .paren => .array [.string "OpenParen"]
  | .opening .unlock => .array [.string "OpenUnlock"]
  | .closing .totalControl => .array [.string "CloseTotalControl"]
  | .closing (.neighbour hops) => .array [.string "CloseNeighbor", .ofNat hops]
  | .closing .group => .array [.string "CloseGroup"]
  | .closing .paren => .array [.string "CloseParen"]
  | .closing .unlock => .array [.string "CloseUnlock"]
  | .timer seconds => .array [.string "Timer", ofSeconds seconds]
  | .unlessSign => .array [.string "Unless"]
  | .orSign => .array [.string "Or"]
  | .name text => .array [.string "Ident", .string text]

end Document
end SignalBox
