import SignalBox.Cli.Run

/-!
# The command line

The outermost layer: files are read, and what a run leaves behind is written.  Everything
else is decided by `SignalBox.Cli.execute`.
-/

namespace SignalBox.Cli

/-- The number of a fault of the system, which may be given with a minus sign. -/
def systemNumber (code : UInt32) : Nat :=
  min code.toNat (UInt32.size - code.toNat)

/-- Why the system did not hand out a file. -/
def ReadFault.ofSystem : IO.Error → ReadFault
  | .noFileOrDirectory _ _ _ => .notFound
  | .noSuchThing _ _ _ => .notFound
  | .inappropriateType _ code _ =>
    if systemNumber code = 20 then .notDirectory else .isDirectory
  | .invalidArgument _ code details =>
    if systemNumber code = 36 then .nameTooLong else .other details
  | .permissionDenied _ _ _ => .other "Permission denied (os error 13)"
  | error => .other error.toString

/-- The bytes of a file as text. -/
def readText (path : String) : IO (Except ReadFault String) := do
  if let some fault := ReadFault.ofPath? path then return .error fault
  try
    let bytes ← IO.FS.readBinFile path
    match String.fromUTF8? bytes with
    | some text => pure (.ok text)
    | none => pure (.error .notText)
  catch error => pure (.error (.ofSystem error))

end SignalBox.Cli

def main (arguments : List String) : IO UInt32 := do
  let outcome ← SignalBox.Cli.execute SignalBox.Cli.readText arguments
  (← IO.getStderr).putStr outcome.errors
  (← IO.getStdout).putStr outcome.output
  pure outcome.code
