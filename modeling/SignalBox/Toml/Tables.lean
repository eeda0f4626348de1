import SignalBox.Json.Basic

namespace SignalBox
namespace Toml

/-!
# Tables of configuration files

The tables of a file and how each of them came to be.  A table is opened by one header at
most: only a table that a longer header led to may still get its own.  A header in double
brackets adds a table to a row of tables, and the last table of a row is the one that longer
headers lead to.  A key with dots makes the tables on its way and may add to tables that such
keys made; it may lead through a table that a longer header led to, but not end there, and it
never leads into a table with a header.  No key is given twice.
-/

/-- How a table came to be. -/
inductive Origin where
  /-- It has a header of its own. -/
  | header
  /-- The header of a table below led to it. -/
  | implied
  /-- A key with dots led to it. -/
  | dotted
deriving DecidableEq, Repr

/-- What stands under a name. -/
inductive Node where
  | value (json : Json)
  | table (origin : Origin) (entries : List (String × Node))
  /-- A row of tables: those that are complete, and the last one. -/
  | row (complete : List Json) (last : List (String × Node))

/-- The entries of a table in the order of their first mention. -/
abbrev Entries := List (String × Node)

mutual

/-- What stands under a name as a JSON value. -/
def Node.json : Node → Json
  | .value json => json
  | .table _ entries => .object (members entries)
  | .row complete last => .array (complete ++ [.object (members last)])

/-- The entries of a table as members of an object. -/
def members : List (String × Node) → List (Json.Name × Json)
  | [] => []
  | (name, node) :: rest => (name, node.json) :: members rest

end

namespace Entries

/-- Change what stands under a name, which may be nothing so far; none where the change is
refused. -/
def alter (name : String) (change : Option Node → Option Node) : Entries → Option Entries
  | [] => (change none).map fun node => [(name, node)]
  | (other, node) :: rest =>
    if other = name then (change (some node)).map fun changed => (name, changed) :: rest
    else (alter name change rest).map fun changed => (other, node) :: changed

/-- Put a value under a key, given by its parts. -/
def insert (json : Json) : List String → Entries → Option Entries
  | [], _ => none
  | [name], entries => entries.alter name fun
    | none => some (.value json)
    | some _ => none
  | name :: path, entries => entries.alter name fun
    | none => (insert json path []).map (.table .dotted)
    | some (.table .dotted inner) => (insert json path inner).map (.table .dotted)
    | some (.table .implied inner) =>
      if path.length = 1 then none else (insert json path inner).map (.table .implied)
    | some (.row complete last) =>
      if path.length = 1 then none else (insert json path last).map (.row complete)
    | some _ => none

/-- Change what a header, given by the parts of its key, stands for. -/
def alterAt (change : Option Node → Option Node) : List String → Entries → Option Entries
  | [], _ => none
  | [name], entries => entries.alter name change
  | name :: path, entries => entries.alter name fun
    | none => (alterAt change path []).map (.table .implied)
    | some (.table origin inner) => (alterAt change path inner).map (.table origin)
    | some (.row complete last) => (alterAt change path last).map (.row complete)
    | some (.value _) => none

/-- Open the table of a header. -/
def openTable : List String → Entries → Option Entries :=
  alterAt fun
    | none => some (.table .header [])
    | some (.table .implied inner) => some (.table .header inner)
    | some _ => none

/-- Add the table of a header in double brackets to its row. -/
def extendRow : List String → Entries → Option Entries :=
  alterAt fun
    | none => some (.row [] [])
    | some (.row complete last) => some (.row (complete ++ [.object (members last)]) [])
    | some _ => none

/-- Put a value under a key of the table that a header has opened; without a header it is
the table of the whole file. -/
def insertBelow (json : Json) (key header : List String) (entries : Entries) :
    Option Entries :=
  if header.isEmpty then entries.insert json key
  else
    entries.alterAt (fun
      | some (.table origin inner) => (insert json key inner).map (.table origin)
      | some (.row complete last) => (insert json key last).map (.row complete)
      | _ => none) header

end Entries

end Toml
end SignalBox
