import SignalBox.Text.Numeral

namespace SignalBox
namespace Cli

/-!
# Reading files

Why a file cannot be read, and directories that are held in memory.  A path is followed
component by component: a component must be looked up in a directory, `.` and empty
components stay where they are, and `..` leads to the directory above.  The directories
above the one that is held are taken to hold nothing else.
-/

/-- Why a file cannot be read. -/
inductive ReadFault where
  | notFound
  | isDirectory
  | notDirectory
  | nameTooLong
  /-- The path holds the character that ends paths. -/
  | endsEarly
  | notText
  | other (message : String)
deriving DecidableEq, Repr

namespace ReadFault

def message : ReadFault → String
  | notFound => "No such file or directory (os error 2)"
  | isDirectory => "Is a directory (os error 21)"
  | notDirectory => "Not a directory (os error 20)"
  | nameTooLong => "File name too long (os error 36)"
  | endsEarly => "file name contained an unexpected NUL byte"
  | notText => "stream did not contain valid UTF-8"
  | other message => message

/-- The fault of a path that no file can have. -/
def ofPath? (path : String) : Option ReadFault :=
  if path.toList.any fun c => c.toNat = 0 then some endsEarly
  else if path.isEmpty then some notFound
  else if 4096 ≤ path.utf8ByteSize then some nameTooLong
  else none

end ReadFault

/-- A directory, given by the files below it and their paths from it. -/
structure Directory where
  files : List (List String × String)

namespace Directory

/-- The components of a path that lead anywhere. -/
def components (path : String) : List String :=
  (path.splitOn "/").filter fun part => part != "" && part != "."

/-- The directory that holds files under paths. -/
def ofFiles (files : List (String × String)) : Directory where
  files := files.map fun (path, content) => (components path, content)

/-- Where a path has led so far. -/
inductive Place where
  | file (content : String)
  /-- A directory, by the components that lead to it from the one that is held. -/
  | inside (below : List String)
  /-- A directory above the one that is held. -/
  | above

/-- What stands at components from the directory that is held. -/
def lookup (directory : Directory) (target : List String) : Except ReadFault Place :=
  match directory.files.find? fun file => file.1 == target with
  | some file => .ok (.file file.2)
  | none =>
    if directory.files.any fun file => target.isPrefixOf file.1 then .ok (.inside target)
    else .error .notFound

/-- Follow one component of a path. -/
def follow (directory : Directory) (place : Place) (component : String) :
    Except ReadFault Place :=
  match place with
  | .file _ => .error .notDirectory
  | .above =>
    if component = "" ∨ component = "." ∨ component = ".." then .ok .above
    else if 255 < component.utf8ByteSize then .error .nameTooLong
    else .error .notFound
  | .inside below =>
    if component = "" ∨ component = "." then .ok (.inside below)
    else if component = ".." then
      .ok (if below.isEmpty then .above else .inside below.dropLast)
    else if 255 < component.utf8ByteSize then .error .nameTooLong
    else directory.lookup (below ++ [component])

/-- The content of the file at a path. -/
def read (directory : Directory) (path : String) : Except ReadFault String := do
  if let some fault := ReadFault.ofPath? path then throw fault
  let start : Place := if path.startsWith "/" then .above else .inside []
  match ← (path.splitOn "/").foldlM directory.follow start with
  | .file content => return content
  | _ => throw .isDirectory

end Directory

end Cli
end SignalBox
