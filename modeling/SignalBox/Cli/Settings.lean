import SignalBox.Cli.Options
import SignalBox.Document.Config
import SignalBox.Toml.Parser

namespace SignalBox
namespace Cli

/-!
# Settings of a run

The settings come from a configuration file, and options of the command line take
precedence over it.  A run needs at least one cycle; a file that asks for none is refused
on its own, and so is what the options make of it.
-/

inductive OutputFormat where
  | text
  | json
deriving DecidableEq, Repr, Inhabited

structure Settings where
  plant : Option String := none
  state : Option String := none
  engine : EngineConfig := {}
  cycles : Nat := 1
  format : OutputFormat := .text
  /-- The signals to report; all of them where none is named. -/
  signals : List String := []
deriving DecidableEq, Repr, Inhabited

namespace Settings

/-- Whether there is a cycle to run. -/
def isValid (settings : Settings) : Bool :=
  settings.cycles != 0

/-- The settings with the options that were given in place of their values. -/
def override (settings : Settings) (options : Options) : Settings where
  plant := options.plant.or settings.plant
  state := options.state.or settings.state
  engine := settings.engine
  cycles := options.cycles.getD settings.cycles
  format := if options.json then .json else settings.format
  signals := if options.signals.isEmpty then settings.signals else options.signals

open Json (Decoder)
open Json.Record (openDecoder optional defaulting)

/-! A section may also be written as the list of its values, and values behind those that
it asks for do not count. -/

/-- The format of the output: its name, or a table of its name alone with nothing in it. -/
def outputFormat : Decoder OutputFormat := fun json =>
  let named := Decoder.choice [("txt", OutputFormat.text), ("json", .json)]
  match json with
  | .object [(name, .object [])] => named (.string name.text)
  | .object [(name, .array [])] => named (.string name.text)
  | json => named json

/-- The section of the input files. -/
def inputSection : Decoder (Option String × Option String) := openDecoder do
  let plant ← optional "plant" Decoder.string
  let state ← optional "state" Decoder.string
  pure (plant, state)

/-- The section of the run. -/
def runSection : Decoder Nat :=
  openDecoder (defaulting "cycles" 1 (Decoder.natural 64))

/-- The section of the output. -/
def outputSection : Decoder (OutputFormat × List String) := openDecoder do
  let format ← defaulting "format" .text outputFormat
  let signals ← defaulting "signals" [] (Decoder.list Decoder.string)
  pure (format, signals)

/-- The settings of a configuration file; every section can be left out. -/
def document : Decoder Settings := openDecoder do
  let input ← defaulting "input" (none, none) inputSection
  let engine ← defaulting "engine" {} (openDecoder Document.engineRecord)
  let cycles ← defaulting "run" 1 runSection
  let output ← defaulting "output" (.text, []) outputSection
  let (plant, state) := input
  let (format, signals) := output
  pure { plant, state, engine, cycles, format, signals }

/-- The settings of the text of a configuration file. -/
def ofText? (text : String) : Option Settings :=
  (Toml.parse? text).bind document

end Settings

end Cli
end SignalBox
