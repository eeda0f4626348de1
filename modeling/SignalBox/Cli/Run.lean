import SignalBox.Cli.Files
import SignalBox.Cli.Log
import SignalBox.Cli.Settings
import SignalBox.Document.Plant
import SignalBox.Document.State
import SignalBox.Json.Parser
import SignalBox.Report

namespace SignalBox
namespace Cli

/-!
# A run of the program

Load the settings, the plant and the state, run the cycles, and report.  Reading a file is
the only thing that a run asks of the world around it, and the reader is an argument.

The initial clock of a run is the epoch.  No report shows the clock, and no occupancy has a
known beginning unless a state is loaded, which brings a clock of its own.
-/

/-- Why a run fails. -/
inductive Fault where
  | unreadableConfig (path : String) (cause : ReadFault)
  | malformedConfig (path : String)
  /-- The configuration file asks for no cycle. -/
  | invalidConfig (path : String)
  | noCycles
  | noPlant
  | unreadable (path : String) (cause : ReadFault)
  | malformed (path : String)
  | notLoaded (path : String) (cause : Error)
  | cycleFailed (cycle : Nat) (cause : Error)
  | evaluation (cause : Error)
deriving DecidableEq

/-- The words for a run without cycles. -/
def noCyclesMessage : String := "run.cycles must be at least 1"

/-- The messages of a fault, from the fault down to its cause. -/
def Fault.chain : Fault → List String
  | unreadableConfig path cause =>
    ["Failed to read config file: " ++ Text.quoted path, cause.message]
  | malformedConfig path =>
    ["Failed to parse config file: " ++ Text.quoted path, "not a configuration"]
  | invalidConfig path => ["Invalid config file: " ++ Text.quoted path, noCyclesMessage]
  | noCycles => [noCyclesMessage]
  | noPlant => ["No plant file given (use --plant or [input] plant)"]
  | unreadable path cause => ["Failed to read file: " ++ Text.quoted path, cause.message]
  | malformed path =>
    ["Failed to parse JSON file: " ++ Text.quoted path, "not a document of this kind"]
  | notLoaded path cause =>
    ("Failed to load interlocking from " ++ Text.quoted path) :: cause.chain
  | cycleFailed cycle cause =>
    ("Evaluation cycle " ++ Text.ofNat cycle ++ " failed") :: cause.chain
  | evaluation cause => cause.chain

/-- A text whose further lines are indented. -/
def indented (blanks : Nat) (text : String) : String :=
  String.ofList (text.toList.flatMap fun c =>
    if c == '\n' then '\n' :: List.replicate blanks ' ' else [c])

/-- A cause with its place in a list of several. -/
def numbered (place : Nat) (message : String) : String :=
  let digits := Text.Numeral.write place
  String.ofList (List.replicate (5 - digits.length) ' ' ++ digits) ++ ": " ++
    indented 7 message

/-- The causes below a message: a single one is indented, several are numbered. -/
def causes : List String → List String
  | [cause] => ["    " ++ indented 4 cause]
  | messages => messages.zipIdx.map fun (message, place) => numbered place message

/-- The text for a fault. -/
def Fault.text (fault : Fault) : String :=
  match fault.chain with
  | [] => "Error: "
  | [message] => "Error: " ++ message
  | message :: below =>
    "Error: " ++ message ++ "\n\nCaused by:\n" ++ "\n".intercalate (causes below)

section Reading

variable {m : Type → Type} [Monad m] (read : String → m (Except ReadFault String))

/-- Read a file as a JSON document. -/
def loadDocument {α : Type} (decode : Json.Decoder α) (path : String) : m (Except Fault α) := do
  match ← read path with
  | .error cause => pure (.error (.unreadable path cause))
  | .ok text =>
    match (Json.document? text).bind decode with
    | some value => pure (.ok value)
    | none => pure (.error (.malformed path))

/-- The settings of a configuration file, which must be valid on their own. -/
def loadSettings (path : String) : m (Except Fault Settings) := do
  match ← read path with
  | .error cause => pure (.error (.unreadableConfig path cause))
  | .ok text =>
    match Settings.ofText? text with
    | none => pure (.error (.malformedConfig path))
    | some settings =>
      pure (if settings.isValid then .ok settings else .error (.invalidConfig path))

/-- The settings of a run: the options over the configuration file, if there is one. -/
def settings (options : Options) : m (Except Fault Settings) := do
  let loaded ← match options.config with
    | none => pure (.ok {})
    | some path => loadSettings read path
  match loaded with
  | .error fault => pure (.error fault)
  | .ok fromFile =>
    let merged := fromFile.override options
    pure (if merged.isValid then .ok merged else .error .noCycles)

/-- The engine in the state of a file, if one is given. -/
def loadState (engine : Engine) : Option String → m (Except Fault Engine)
  | none => pure (.ok engine)
  | some path => do
    match ← loadDocument read Document.state path with
    | .error fault => pure (.error fault)
    | .ok state => pure (.ok (engine.withState state))

end Reading

/-- Run cycles, the next of which has the given number, and add them to a report. -/
def runCycles (engine : Engine) (report : RunReport) (next : Nat) :
    Nat → Except Fault (Engine × RunReport)
  | 0 => .ok (engine, report)
  | remaining + 1 =>
    match engine.cycle with
    | (_, .error cause) => .error (.cycleFailed next cause)
    | (after, .ok sweep) =>
      runCycles after (report.addCycle engine.box.plant next sweep) (next + 1) remaining

/-- Run the cycles of the settings and report them with the aspects at the end. -/
def runEngine (settings : Settings) (engine : Engine) :
    List LogLine × Except Fault RunReport :=
  match runCycles engine {} 1 settings.cycles with
  | .error fault => ([], .error fault)
  | .ok (after, report) =>
    let aspects :=
      if settings.signals.isEmpty then after.allAspects else after.aspects settings.signals
    ([.ofCycles settings.cycles report.totalChanges],
      (aspects.mapError .evaluation).map fun aspects => { report with aspects })

/-- A report in the format of the settings. -/
def present (settings : Settings) (report : RunReport) : String :=
  match settings.format with
  | .text => report.text
  | .json => report.json ++ "\n"

/-- Run the program with options, reading files with `read`.  The log is kept in either
case. -/
def run {m : Type → Type} [Monad m] (read : String → m (Except ReadFault String))
    (options : Options) : m (List LogLine × Except Fault String) := do
  let log := LogLine.opening options.config
  match ← settings read options with
  | .error fault => pure (log, .error fault)
  | .ok settings =>
    match settings.plant with
    | none => pure (log, .error .noPlant)
    | some path =>
      match ← loadDocument read Document.plantData path with
      | .error fault => pure (log, .error fault)
      | .ok data =>
        let (notices, loaded) := Engine.load data settings.engine Time.Timestamp.epoch
        let log := log ++ notices.map .ofNotice
        match loaded with
        | .error cause => pure (log, .error (.notLoaded path cause))
        | .ok engine =>
          let log := log ++ [.ofEngine engine]
          match ← loadState read engine settings.state with
          | .error fault => pure (log, .error fault)
          | .ok ready =>
            let (further, report) := runEngine settings ready
            pure (log ++ settings.state.toList.map .ofState ++ further,
              report.map (present settings))

/-- What a run leaves behind. -/
structure Outcome where
  code : UInt32
  output : String := ""
  errors : String := ""
deriving DecidableEq, Repr

/-- The name and version of the program. -/
def versionText : String := "interlocking-cli 0.1.0\n"

/-- How the program is called. -/
def usageText : String :=
  "Usage: interlocking-cli [OPTIONS]\n\n" ++
  "Options:\n" ++
  "  -p, --plant <FILE>    master data (JSON)\n" ++
  "  -s, --state <FILE>    live state to start from (JSON)\n" ++
  "  -c, --config <FILE>   configuration file (TOML)\n" ++
  "  -n, --cycles <COUNT>  number of evaluation cycles\n" ++
  "      --signal <NAME>   signal to report, can be repeated\n" ++
  "      --json            report as JSON\n" ++
  "  -v, --verbose         more notices, can be repeated\n" ++
  "  -q, --quiet           no notices\n" ++
  "  -h, --help            show this help\n" ++
  "  -V, --version         show the version\n"

/-- Run the program with the arguments of a command line. -/
def execute {m : Type → Type} [Monad m] (read : String → m (Except ReadFault String))
    (arguments : List String) : m Outcome := do
  match Options.parse arguments with
  | .error .usage => pure { code := 2, errors := usageText }
  | .error .help => pure { code := 0, output := usageText }
  | .error .version => pure { code := 0, output := versionText }
  | .ok options =>
    let (log, outcome) ← run read options
    let shown := if options.quiet then "" else String.join (log.map LogLine.text)
    match outcome with
    | .ok output => pure { code := 0, output, errors := shown }
    | .error fault => pure { code := 1, errors := shown ++ fault.text ++ "\n" }

end Cli
end SignalBox
