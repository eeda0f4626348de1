import SignalBox.Json.Basic
import SignalBox.Table
import SignalBox.Text.Numeral

namespace SignalBox
namespace Json

/-!
# Decoding documents

A decoder reads a JSON value as a value of some type or refuses it.  Records may be
written as objects, with members in any order and members that are not asked for
ignored, or as arrays of the values in field order.  A member that is written twice is
refused.  Whether a field may be left out, and whether null stands for its absence, is
said where the record is described.
-/

abbrev Decoder (α : Type) := Json → Option α

namespace Decoder

variable {α β : Type}

def bool : Decoder Bool
  | .bool value => some value
  | _ => none

def string : Decoder String
  | .string value => some value
  | _ => none

/-- A natural number that fits into the given number of bits. -/
def natural (bits : Nat) : Decoder Nat
  | .integer (.ofNat number) => Text.Numeral.within bits number
  | _ => none

/-- An unsigned 32-bit number. -/
def word32 (json : Json) : Option UInt32 :=
  (natural 32 json).map UInt32.ofNat

def list (item : Decoder α) : Decoder (List α)
  | .array items => items.mapM item
  | _ => none

/-- A value that null leaves out. -/
def nullable (decode : Decoder α) : Decoder (Option α)
  | .null => some none
  | json => (decode json).map some

/-- The entries of an object under decoded names; the last of equal names counts. -/
def table [DecidableEq α] (key : Name → Option α) (value : Decoder β) :
    Decoder (Table α β)
  | .object members =>
    (members.mapM fun (name, json) => do
      let decodedKey ← key name
      let decodedValue ← value json
      some (decodedKey, decodedValue)).map Table.ofList
  | _ => none

/-- One of several named values, written as its name or as an object that holds null
under its name. -/
def choice (names : List (String × α)) : Decoder α
  | .string name => names.lookup name
  | .object [(name, .null)] => names.lookup name.text
  | _ => none

end Decoder

/-- The two written forms of a record. -/
inductive Fields where
  | named (members : List (Name × Json))
  | listed (items : List Json)

/-- A description of a record: its fields are taken in order from a written form. -/
abbrev Record := StateT Fields Option

namespace Record

variable {α : Type}

/-- The field of a name, or the next value of a list; none where it is left out. -/
def take (name : String) : Record (Option Json) := fun fields =>
  match fields with
  | .named members =>
    match members.filter fun entry => entry.1.text == name with
    | [] => some (none, fields)
    | [entry] => some (some entry.2, fields)
    | _ => none
  | .listed [] => some (none, fields)
  | .listed (item :: rest) => some (some item, .listed rest)

/-- A field that must be written. -/
def required (name : String) (decode : Decoder α) : Record α := do
  match ← take name with
  | some json => liftM (decode json)
  | none => failure

/-- A field with a default for where it is left out. -/
def defaulting (name : String) (default : α) (decode : Decoder α) : Record α := do
  match ← take name with
  | some json => liftM (decode json)
  | none => pure default

/-- A field that an object may leave out or hold null for, but a list may not leave out. -/
def optional (name : String) (decode : Decoder α) : Record (Option α) := fun fields =>
  match fields with
  | .listed [] => none
  | _ => defaulting name none (Decoder.nullable decode) fields

/-- The decoder of a described record; a list may hold no further values. -/
def decoder (record : Record α) : Decoder α
  | .object members => (record (.named members)).map Prod.fst
  | .array items =>
    match record (.listed items) with
    | some (value, .listed []) => some value
    | _ => none
  | _ => none

/-- The decoder of a described record that is written as an object only. -/
def objectDecoder (record : Record α) : Decoder α
  | .object members => (record (.named members)).map Prod.fst
  | _ => none

/-- The decoder of a described record whose list may hold further values, which are
ignored. -/
def openDecoder (record : Record α) : Decoder α
  | .object members => (record (.named members)).map Prod.fst
  | .array items => (record (.listed items)).map Prod.fst
  | _ => none

end Record

end Json
end SignalBox
