import SignalBox.Toml.Value

namespace SignalBox
namespace Toml

/-!
# Reading configuration files

A reader for TOML files, line by line.  A file is read as the JSON object of the same shape.
-/

/-- What has been read: the entries of the file, and the header whose table keys go to. -/
structure Progress where
  entries : Entries := []
  header : List String := []

/-- Read a header, whose opening bracket has been read, up to the end of its line. -/
def headerLine (progress : Progress) : Reader Progress := fun text => do
  let (header, rest) ← key maxParts text
  let rest ← lineEnd (← behind ']' rest)
  let entries ← progress.entries.openTable header
  some ({ entries, header }, rest)

/-- Read a header in double brackets, the opening ones of which have been read, up to the
end of its line. -/
def rowLine (progress : Progress) : Reader Progress := fun text => do
  let (header, rest) ← key maxParts text
  let rest ← lineEnd (← behind ']' (← behind ']' rest))
  let entries ← progress.entries.extendRow header
  some ({ entries, header }, rest)

/-- Read a key with its value up to the end of its line. -/
def keyLine (progress : Progress) : Reader Progress := fun text => do
  let (path, rest) ← key maxParts text
  let (json, rest) ← value maxDepth (skipSpaces (← behind '=' rest))
  let rest ← lineEnd rest
  let entries ← progress.entries.insertBelow json path progress.header
  some ({ progress with entries }, rest)

/-- Read lines up to the end of the text.  The first argument bounds their number. -/
def lines : Nat → Progress → List Char → Option Progress
  | 0, _, _ => none
  | bound + 1, progress, text => do
    let (reached, rest) ← match skipLines false text with
      | [] => return progress
      | '[' :: '[' :: rest => rowLine progress rest
      | '[' :: rest => headerLine progress rest
      | start => keyLine progress start
    lines bound reached rest

/-- The text without a byte order mark at its start. -/
def skipMark : List Char → List Char
  | '\uFEFF' :: rest => rest
  | text => text

/-- Read a whole file. -/
def parse? (text : String) : Option Json :=
  let lined := skipMark text.toList
  (lines (lined.length + 1) {} lined).map fun progress => .object (members progress.entries)

end Toml
end SignalBox
