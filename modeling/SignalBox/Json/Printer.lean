import SignalBox.Json.Basic

namespace SignalBox
namespace Json

/-!
# Writing JSON

Two layouts: `compact` on one line without blanks, and `pretty` with one value per line,
each level indented by two blanks, empty arrays and objects on one line.  Strings escape
quotes, backslashes and control characters and nothing else.
-/

/-- The hexadecimal digit of a number below sixteen. -/
def hexDigit (number : Nat) : Char :=
  if number < 10 then Char.ofNat ('0'.toNat + number) else Char.ofNat ('a'.toNat + number - 10)

/-- A character as it stands inside a JSON string. -/
def escape (character : Char) : List Char :=
  match character with
  | '"' => ['\\', '"']
  | '\\' => ['\\', '\\']
  | '\n' => ['\\', 'n']
  | '\r' => ['\\', 'r']
  | '\t' => ['\\', 't']
  | character =>
    if character.toNat = 8 then ['\\', 'b']
    else if character.toNat = 12 then ['\\', 'f']
    else if character.toNat < 0x20 then
      ['\\', 'u', '0', '0', hexDigit (character.toNat / 16), hexDigit (character.toNat % 16)]
    else [character]

/-- A string between quotes. -/
def quote (text : String) : String :=
  String.ofList ('"' :: (text.toList.flatMap escape ++ ['"']))

/-- A value that is neither array nor object; there is nothing to write for a value that
cannot be read. -/
def writeScalar : Json → String
  | null => "null"
  | bool true => "true"
  | bool false => "false"
  | integer (.ofNat number) => toString number
  | integer (.negSucc number) => "-" ++ toString (number + 1)
  | decimal text => text
  | string text => quote text
  | array _ => "[]"
  | object _ => "\x7b\x7d"
  | unreadable => ""

mutual

/-- A value on one line without blanks. -/
def compact : Json → String
  | array items => "[" ++ compactItems items ++ "]"
  | object members => "\x7b" ++ compactMembers members ++ "\x7d"
  | scalar => writeScalar scalar

/-- The items of an array, separated by commas. -/
def compactItems : List Json → String
  | [] => ""
  | [item] => compact item
  | item :: rest => compact item ++ "," ++ compactItems rest

/-- The members of an object, separated by commas. -/
def compactMembers : List (Name × Json) → String
  | [] => ""
  | [(name, item)] => quote name.text ++ ":" ++ compact item
  | (name, item) :: rest => quote name.text ++ ":" ++ compact item ++ "," ++ compactMembers rest

end

/-- A line break followed by the blanks of a level. -/
def lineBreak (level : Nat) : String :=
  "\n" ++ String.ofList (List.replicate (2 * level) ' ')

mutual

/-- A value with one item or member per line, starting at the given level. -/
def prettyAt (level : Nat) : Json → String
  | array [] => "[]"
  | array items => "[" ++ prettyItems (level + 1) items ++ lineBreak level ++ "]"
  | object [] => "\x7b\x7d"
  | object members => "\x7b" ++ prettyMembers (level + 1) members ++ lineBreak level ++ "\x7d"
  | scalar => writeScalar scalar

/-- The items of an array, each on a line of its own. -/
def prettyItems (level : Nat) : List Json → String
  | [] => ""
  | [item] => lineBreak level ++ prettyAt level item
  | item :: rest => lineBreak level ++ prettyAt level item ++ "," ++ prettyItems level rest

/-- The members of an object, each on a line of its own. -/
def prettyMembers (level : Nat) : List (Name × Json) → String
  | [] => ""
  | [(name, item)] => lineBreak level ++ quote name.text ++ ": " ++ prettyAt level item
  | (name, item) :: rest =>
    lineBreak level ++ quote name.text ++ ": " ++ prettyAt level item ++ "," ++
      prettyMembers level rest

end

/-- A value with one item or member per line. -/
def pretty (json : Json) : String :=
  prettyAt 0 json

end Json
end SignalBox
