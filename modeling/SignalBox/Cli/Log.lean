import SignalBox.Engine
import SignalBox.Text.Quoted

namespace SignalBox
namespace Cli

/-!
# The log of a run

Besides its report a run keeps a log of what it loads.  A line of the log has a level, the
part of the program that speaks, and a message.
-/

structure LogLine where
  level : NoticeLevel
  source : String
  message : String
deriving DecidableEq, Repr

namespace LogLine

def text (line : LogLine) : String :=
  let level := match line.level with
    | .info => "INFO"
    | .warning => "WARN"
  "[" ++ level ++ " " ++ line.source ++ "] " ++ line.message ++ "\n"

/-- The part of the program that gives a notice. -/
def sourceOf : Notice → String
  | .loading _ => "interlocking_core::interlocking"
  | .loaded => "interlocking_core::interlocking"
  | .databaseBuilt _ _ _ _ => "interlocking_core::plant::data"
  | .networkBuilt _ _ _ _ => "interlocking_core::aspect::propagator"
  | .rowSkipped _ => "interlocking_core::lock_table"
  | .leverCount _ _ => "interlocking_core::lock_table"
  | .clauseSkipped _ _ _ => "interlocking_core::lock_table"
  | .lockTableBuilt _ _ _ _ => "interlocking_core::lock_table"

/-- The line of a notice. -/
def ofNotice (notice : Notice) : LogLine :=
  ⟨notice.level, sourceOf notice, notice.message⟩

/-- A line of the command line itself. -/
def own (message : String) : LogLine :=
  ⟨.info, "interlocking_cli", message⟩

/-- The lines at the start of a run, given the path of its configuration file. -/
def opening (config : Option String) : List LogLine :=
  [own "Interlocking CLI v0.1.0", own "Using interlocking library v0.1.0"] ++
    (config.map fun path => own ("Loading configuration from: " ++ Text.quoted path)).toList

/-- The line for an engine that has been loaded. -/
def ofEngine (engine : Engine) : LogLine :=
  let statistics := engine.box.plant.statistics
  own ("Loaded " ++ Text.ofNat statistics.objects ++ " objects in " ++
    Text.ofNat statistics.plants ++ " plants, " ++ Text.ofNat engine.box.locks.size ++
    " lock-table trees, " ++ Text.ofNat engine.network.size ++ " signals")

/-- The line for a state that has been loaded from a path. -/
def ofState (path : String) : LogLine :=
  own ("Live state loaded from: " ++ Text.quoted path)

/-- The line for cycles that have been run, with the number of changes in them. -/
def ofCycles (cycles changes : Nat) : LogLine :=
  own (Text.ofNat cycles ++ " cycles run, " ++ Text.ofNat changes ++ " relay changes")

end LogLine

end Cli
end SignalBox
