namespace SignalBox

/-!
# JSON values

Plant data, live states and reports are JSON documents.  Integers are kept apart from
the other numbers, which no document of this library asks for and which are therefore
kept as written.  An object is the list of its members as they were written, repetitions
included; what a repetition means is decided where the object is read.

A document may hold values that nobody can read, as long as nobody asks for them: a string
with half of a surrogate pair, an object with such a name, and a number beyond every double.
-/

/-- The name of a member of an object. -/
structure Json.Name where
  text : String
  /-- Whether escapes stand in the name as it is written. -/
  escaped : Bool := false
deriving DecidableEq, Inhabited

instance : Coe String Json.Name := ⟨fun text => { text }⟩

inductive Json where
  | null
  | bool (value : Bool)
  | integer (value : Int)
  /-- A number with a fraction or an exponent, or a negative zero. -/
  | decimal (text : String)
  | string (value : String)
  | array (items : List Json)
  | object (members : List (Json.Name × Json))
  /-- A well-formed text without a value. -/
  | unreadable
deriving Inhabited

namespace Json

/-- The JSON integer of a natural number. -/
def ofNat (number : Nat) : Json :=
  integer number

/-- The JSON form of a value that may be absent: absence is null. -/
def ofOption {α : Type} (encode : α → Json) : Option α → Json
  | none => null
  | some value => encode value

/-- The JSON array of a list. -/
def ofList {α : Type} (encode : α → Json) (values : List α) : Json :=
  array (values.map encode)

/-- The last member of a name in a list of members. -/
def lastMember? (name : String) (members : List (Name × Json)) : Option Json :=
  (members.reverse.find? fun entry => entry.1.text == name).map Prod.snd

/-- The value of a member of an object, the last one of that name; null for an absent
member and for a value that is no object. -/
def member (json : Json) (name : String) : Json :=
  match json with
  | object members => (lastMember? name members).getD null
  | _ => null

mutual

/-- Whether everything in a value can be read. -/
def isReadable : Json → Bool
  | unreadable => false
  | array items => areReadable items
  | object members => areReadableMembers members
  | _ => true

def areReadable : List Json → Bool
  | [] => true
  | item :: rest => isReadable item && areReadable rest

def areReadableMembers : List (Name × Json) → Bool
  | [] => true
  | (_, value) :: rest => isReadable value && areReadableMembers rest

end

mutual

/-- The value without repeated members: of members of one name the last one counts, in
every object inside the value too.  How the names were written is forgotten. -/
def distinct : Json → Json
  | object members => object (distinctMembers members)
  | array items => array (distinctItems items)
  | json => json

/-- The members that no later member of the same name replaces. -/
def distinctMembers : List (Name × Json) → List (Name × Json)
  | [] => []
  | (name, value) :: rest =>
    if rest.any fun entry => entry.1.text == name.text then distinctMembers rest
    else (name.text, distinct value) :: distinctMembers rest

/-- The values of an array, each without repeated members. -/
def distinctItems : List Json → List Json
  | [] => []
  | item :: rest => distinct item :: distinctItems rest

end

end Json

end SignalBox
