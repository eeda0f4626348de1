import SignalBox.Text.Numeral

namespace SignalBox
namespace Cli

/-!
# Command-line options

Options are read from left to right.  A value follows its option as the next argument,
behind an equals sign, or for a single letter right behind it.  Every option other than
the names of signals and the verbosity can be given once, and there are no arguments
besides options.
-/

structure Options where
  plant : Option String := none
  state : Option String := none
  config : Option String := none
  cycles : Option Nat := none
  /-- The signals to report, in the order given. -/
  signals : List String := []
  json : Bool := false
  verbosity : Nat := 0
  quiet : Bool := false
deriving DecidableEq, Repr, Inhabited

/-- Why options do not lead to a run. -/
inductive Halt where
  | usage
  | version
  | help
deriving DecidableEq, Repr

/-- The options that take a value. -/
inductive Setting where
  | plant
  | state
  | config
  | cycles
  | signal
deriving DecidableEq, Repr

/-- The options that take none. -/
inductive Switch where
  | json
  | verbose
  | quiet
  | version
  | help
deriving DecidableEq, Repr

/-- An option by its long name. -/
def longOption? : String → Option (Setting ⊕ Switch)
  | "plant" => some (.inl .plant)
  | "state" => some (.inl .state)
  | "config" => some (.inl .config)
  | "cycles" => some (.inl .cycles)
  | "signal" => some (.inl .signal)
  | "json" => some (.inr .json)
  | "verbose" => some (.inr .verbose)
  | "quiet" => some (.inr .quiet)
  | "version" => some (.inr .version)
  | "help" => some (.inr .help)
  | _ => none

/-- An option by its letter. -/
def shortOption? : Char → Option (Setting ⊕ Switch)
  | 'p' => some (.inl .plant)
  | 's' => some (.inl .state)
  | 'c' => some (.inl .config)
  | 'n' => some (.inl .cycles)
  | 'v' => some (.inr .verbose)
  | 'q' => some (.inr .quiet)
  | 'V' => some (.inr .version)
  | 'h' => some (.inr .help)
  | _ => none

namespace Options

/-- Take a value that can be given once. -/
def once {α : Type} (current : Option α) (value : Option α) : Except Halt (Option α) :=
  match current, value with
  | none, some value => .ok (some value)
  | _, _ => .error .usage

/-- A path, which is not empty. -/
def path? (text : String) : Option String :=
  if text.isEmpty then none else some text

/-- A count: a number of 64 bits, with or without a plus sign. -/
def count? (text : String) : Option Nat :=
  (Text.Numeral.readSigned? text.toList).bind (Text.Numeral.within 64)

/-- Give a setting its value. -/
def set (options : Options) (setting : Setting) (value : String) : Except Halt Options :=
  match setting with
  | .plant => (once options.plant (path? value)).map fun plant => { options with plant }
  | .state => (once options.state (path? value)).map fun state => { options with state }
  | .config => (once options.config (path? value)).map fun config => { options with config }
  | .cycles => (once options.cycles (count? value)).map fun cycles => { options with cycles }
  | .signal => .ok { options with signals := options.signals ++ [value] }

/-- Turn a switch on. -/
def turnOn (options : Options) : Switch → Except Halt Options
  | .json => if options.json then .error .usage else .ok { options with json := true }
  | .quiet => if options.quiet then .error .usage else .ok { options with quiet := true }
  | .verbose => .ok { options with verbosity := options.verbosity + 1 }
  | .version => .error .version
  | .help => .error .help

/-- Whether an argument can be the value of the option before it. -/
def isValue (argument : String) : Bool :=
  argument == "-" || argument.toList.head? != some '-'

/-- Read the letters of an argument.  The second result is a setting whose value is the
next argument. -/
def letters (options : Options) : List Char → Except Halt (Options × Option Setting)
  | [] => .ok (options, none)
  | letter :: rest =>
    match shortOption? letter with
    | none => .error .usage
    | some (.inr switch) => do
      let changed ← options.turnOn switch
      letters changed rest
    | some (.inl setting) =>
      match rest with
      | [] => .ok (options, some setting)
      | '=' :: value => do
        let changed ← options.set setting (String.ofList value)
        .ok (changed, none)
      | value => do
        let changed ← options.set setting (String.ofList value)
        .ok (changed, none)

/-- Read one argument.  The second result is a setting whose value is the next argument. -/
def argument (options : Options) (text : String) : Except Halt (Options × Option Setting) :=
  match text.toList with
  | '-' :: '-' :: rest =>
    let name := String.ofList (rest.takeWhile (· != '='))
    match longOption? name, rest.dropWhile (· != '=') with
    | some (.inl setting), [] => .ok (options, some setting)
    | some (.inl setting), _ :: value => do
      let changed ← options.set setting (String.ofList value)
      .ok (changed, none)
    | some (.inr switch), [] => do
      let changed ← options.turnOn switch
      .ok (changed, none)
    | _, _ => .error .usage
  | '-' :: letter :: rest => options.letters (letter :: rest)
  | _ => .error .usage

/-- Read arguments.  The second argument is a setting whose value is expected. -/
def read (options : Options) : Option Setting → List String → Except Halt Options
  | none, [] => .ok options
  | some _, [] => .error .usage
  | some setting, value :: rest =>
    if isValue value then do
      let changed ← options.set setting value
      changed.read none rest
    else .error .usage
  | none, text :: rest =>
    if text = "--" then (if rest.isEmpty then .ok options else .error .usage)
    else do
      let (changed, setting) ← options.argument text
      changed.read setting rest

/-- Read the arguments of a command line. -/
def parse (arguments : List String) : Except Halt Options :=
  ({} : Options).read none arguments

end Options

end Cli
end SignalBox
