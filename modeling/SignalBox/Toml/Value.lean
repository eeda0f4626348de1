import SignalBox.Toml.Moment
import SignalBox.Toml.Number
import SignalBox.Toml.Tables

namespace SignalBox
namespace Toml

/-!
# Keys and values of configuration files

Values are read as the JSON values of the same shape, and a moment as an object that holds
its text.  Arrays may stand on several lines, with comments between their items; a table in
braces stands on one line, and nothing can be added to it later.
-/

/-- How deep arrays and tables in braces may be nested. -/
def maxDepth : Nat := 79

/-- How many parts a key may have. -/
def maxParts : Nat := 79

/-- Read one part of a key: letters, digits, dashes and underscores, or a string. -/
def keyPart : Reader String := fun text =>
  if text.head? == some '"' || text.head? == some '\'' then string text
  else
    let isKeyChar (c : Char) : Bool := c.isAlphanum || c == '_' || c == '-'
    let read := text.takeWhile isKeyChar
    if read.isEmpty then none else some (String.ofList read, text.dropWhile isKeyChar)

/-- Read a key of parts with dots between them, at most as many as the first argument
says. -/
def key : Nat → Reader (List String)
  | 0, _ => none
  | bound + 1, text => do
    let (part, rest) ← keyPart (skipSpaces text)
    match skipSpaces rest with
    | '.' :: rest => do
      let (others, rest) ← key bound rest
      some (part :: others, rest)
    | rest => some ([part], rest)

/-- Whether a character may stand in a value without quotes. -/
def isBare (c : Char) : Bool :=
  c.isAlphanum || ['_', '+', '-', '.', ':'].contains c

/-- Read a truth value or a number. -/
def bareValue : Reader Json := fun text =>
  let read := text.takeWhile isBare
  let rest := text.dropWhile isBare
  if read = ['t', 'r', 'u', 'e'] then some (.bool true, rest)
  else if read = ['f', 'a', 'l', 's', 'e'] then some (.bool false, rest)
  else if isDecimal read then some (.decimal (String.ofList read), rest)
  else
    match integer? read with
    | some number => if isWord number then some (.integer number, rest) else none
    | none => none

/-- Read a value that is neither array nor table. -/
def scalar : Reader Json := fun text =>
  if text.head? == some '"' || text.head? == some '\'' then
    (longString text).map fun read => (.string read.1, read.2)
  else
    match skipMoment text with
    | some rest =>
      let written := String.ofList (text.take (text.length - rest.length))
      some (.object [("moment", .string written)], rest)
    | none => bareValue text

/-- Read the items of an array up to its closing bracket, given the reader of an item and
the items before.  The first argument bounds the number of items. -/
def arrayItems (item : Reader Json) : Nat → List Json → Reader Json
  | 0, _, _ => none
  | bound + 1, read, text =>
    match skipLines false text with
    | ']' :: rest => some (.array read.reverse, rest)
    | start =>
      match item start with
      | none => none
      | some (value, rest) =>
        match skipLines false rest with
        | ',' :: rest => arrayItems item bound (value :: read) rest
        | ']' :: rest => some (.array (value :: read).reverse, rest)
        | _ => none

/-- Read the keys and values of a table in braces up to the closing brace, given the reader
of a value and the entries before.  The first argument bounds the number of keys. -/
def tableItems (item : Reader Json) : Nat → Entries → Reader Json
  | 0, _, _ => none
  | bound + 1, entries, text => do
    let (path, rest) ← key maxParts text
    let (json, rest) ← item (skipSpaces (← behind '=' rest))
    let entries ← entries.insert json path
    match skipSpaces rest with
    | ',' :: rest => tableItems item bound entries rest
    | '\x7d' :: rest => some (.object (members entries), rest)
    | _ => none

/-- Read a table whose opening brace has been read, given the reader of a value. -/
def tableRest (item : Reader Json) : Reader Json := fun text =>
  match skipSpaces text with
  | '\x7d' :: rest => some (.object [], rest)
  | rest => tableItems item (rest.length + 1) [] rest

/-- Read a value with arrays and tables nested at most the given number of levels deep. -/
def value : Nat → Reader Json
  | 0, text => scalar text
  | depth + 1, text =>
    match text with
    | '[' :: rest => arrayItems (value depth) (rest.length + 1) [] rest
    | '\x7b' :: rest => tableRest (value depth) rest
    | text => scalar text

end Toml
end SignalBox
