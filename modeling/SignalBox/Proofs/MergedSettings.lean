import SignalBox.Cli.Run
import SignalBox.Proofs.Fallible
import SignalBox.Proofs.Records

namespace SignalBox
namespace Cli

/-!
# How far options go over a configuration file

The number of cycles is checked in two places.  A configuration file must ask for a cycle on its
own, whatever the options say, and so must the settings that the options make of it.  An option
takes the place of what the file says only if the file has passed the first check: a file that
asks for no cycle is not made good by an option.

Only the second check sees the options, so both are needed to tell which runs get past their
settings.  What a run does afterwards depends on the merged settings and on nothing else of the
options; that is what makes a value of the options the effective one.

The files are fixed here, and reading one is a function.
-/

/-- Whether a run has failed for want of settings: its configuration cannot be had, or asks for no
cycle. -/
def Fault.isAboutSettings : Fault → Bool
  | .unreadableConfig _ _ => true
  | .malformedConfig _ => true
  | .invalidConfig _ => true
  | .noCycles => true
  | _ => false

/-! ## What a configuration file states -/

/-- The number of cycles that a document states in its section of the run; none where it leaves the
number to the default. -/
def Settings.statedCycles (document : Json) : Option Nat :=
  ((document.member "run").fields?.bind (Json.Fields.first? "cycles")).bind
    (Json.Decoder.natural 64)

namespace Settings

open Json (Decoder)
open Json.Record

theorem runSection_eq_some {json : Json} {cycles : Nat} (read : runSection json = some cycles) :
    cycles = ((json.fields?.bind (Json.Fields.first? "cycles")).bind
      (Decoder.natural 64)).getD 1 := by
  rcases openDecoder_eq_some.1 read with ⟨fields, rest, written, record⟩
  have own := defaulting_first? record
  rw [written, Option.bind_some]
  cases stated : fields.first? "cycles" with
  | none =>
    rw [stated] at own
    cases own
    rfl
  | some number =>
    rw [stated] at own
    rw [Option.bind_some]
    exact (Option.getD_eq_iff.2 (.inl own)).symm

/-- The document of a configuration file asks for the cycles that it states, and for one cycle where
it states none. -/
theorem cycles_of_document {text : String} {json : Json} {settings : Settings}
    (parsed : Toml.parse? text = some json) (read : document json = some settings) :
    settings.cycles = (statedCycles json).getD 1 := by
  rcases Option.map_eq_some_iff.1 parsed with ⟨progress, _, rfl⟩
  rcases Option.map_eq_some_iff.1 read with ⟨⟨whole, fields⟩, record, rfl⟩
  rcases exists_of_bind_named (fun _ _ => defaulting_named) record with ⟨input, record⟩
  rcases exists_of_bind_named (fun _ _ => defaulting_named) record with ⟨engine, record⟩
  rcases Option.bind_eq_some_iff.1 record with ⟨⟨cycles, afterRun⟩, own, record⟩
  rcases Option.bind_eq_some_iff.1 record with ⟨⟨output, rest⟩, _, built⟩
  cases built
  have found : (Json.lastMember? "run" _).elim (some 1) runSection = some cycles :=
    defaulting_first? own
  unfold statedCycles Json.member
  dsimp only
  cases written : Json.lastMember? "run" (Toml.members progress.entries) with
  | none =>
    rw [written] at found
    cases found
    rfl
  | some json =>
    rw [written] at found
    exact runSection_eq_some found

/-- Settings are valid exactly if they ask for a cycle. -/
theorem isValid_iff {settings : Settings} : settings.isValid = true ↔ 1 ≤ settings.cycles := by
  rw [isValid, bne_iff_ne, Nat.one_le_iff_ne_zero]

end Settings

section Files

variable {read : String → Except ReadFault String} {options : Options} {stated : Option Nat}
  {file merged : Settings} {fault : Fault}

/-! ## The settings and the rest of a run -/

/-- What a run makes of its settings, its log aside. -/
def answer (read : String → Except ReadFault String) (settings : Settings) :
    Except Fault String := do
  let path ← settings.plant.elim (.error .noPlant) .ok
  let data ← Id.run (loadDocument read Document.plantData path)
  let engine ← (Engine.load data settings.engine Time.Timestamp.epoch).2.mapError
    (.notLoaded path)
  let ready ← Id.run (loadState read engine settings.state)
  let report ← (runEngine settings ready).2
  pure (present settings report)

/-- A run is what is made of its settings, if it has any. -/
theorem run_eq_bind :
    (Id.run (run read options)).2 = Id.run (settings read options) >>= answer read := by
  unfold run
  rw [Id.run_bind]
  cases Id.run (settings read options) with
  | error fault => rfl
  | ok merged =>
    rw [Fallible.bind_of_eq_ok rfl]
    unfold answer
    dsimp only
    cases merged.plant with
    | none => rfl
    | some path =>
      dsimp only [Option.elim_some]
      rw [Id.run_bind, Fallible.bind_of_eq_ok rfl]
      cases Id.run (loadDocument read Document.plantData path) with
      | error fault => rfl
      | ok data =>
        rw [Fallible.bind_of_eq_ok rfl]
        dsimp only
        cases (Engine.load data merged.engine Time.Timestamp.epoch).2 with
        | error cause => rfl
        | ok engine =>
          rw [Id.run_bind, Fallible.bind_of_eq_ok (Fallible.mapError_eq_ok.2 rfl)]
          cases Id.run (loadState read engine merged.state) with
          | error fault => rfl
          | ok ready =>
            rw [Fallible.bind_of_eq_ok rfl]
            dsimp only
            rw [Id.run_pure]
            cases (runEngine merged ready).2 with
            | error fault => rfl
            | ok report => rfl

/-! ### Faults behind the settings -/

theorem isAboutSettings_of_loadDocument {α : Type} {decode : Json.Decoder α} {path : String}
    (failed : Id.run (loadDocument read decode path) = .error fault) :
    fault.isAboutSettings = false := by
  unfold loadDocument at failed
  rw [Id.run_bind] at failed
  cases found : Id.run (read path) with
  | error cause =>
    rw [found] at failed
    cases failed
    rfl
  | ok text =>
    rw [found] at failed
    dsimp only at failed
    cases decoded : (Json.document? text).bind decode with
    | none =>
      rw [decoded] at failed
      cases failed
      rfl
    | some value =>
      rw [decoded] at failed
      cases failed

theorem isAboutSettings_of_loadState {engine : Engine} {path : Option String}
    (failed : Id.run (loadState read engine path) = .error fault) :
    fault.isAboutSettings = false := by
  cases path with
  | none => cases failed
  | some path =>
    unfold loadState at failed
    rw [Id.run_bind] at failed
    cases loaded : Id.run (loadDocument read Document.state path) with
    | error other =>
      rw [loaded] at failed
      cases failed
      exact isAboutSettings_of_loadDocument loaded
    | ok state =>
      rw [loaded] at failed
      cases failed

omit read in
theorem isAboutSettings_of_runCycles {engine : Engine} {report : RunReport}
    {next remaining : Nat} (failed : runCycles engine report next remaining = .error fault) :
    fault.isAboutSettings = false := by
  induction remaining generalizing engine report next with
  | zero => cases failed
  | succ remaining inductionHypothesis =>
    unfold runCycles at failed
    split at failed
    case h_1 =>
      cases failed
      rfl
    case h_2 => exact inductionHypothesis failed

theorem isAboutSettings_of_runEngine {settings : Settings} {engine : Engine}
    (failed : (runEngine settings engine).2 = .error fault) :
    fault.isAboutSettings = false := by
  unfold runEngine at failed
  split at failed
  case h_1 other stopped =>
    cases failed
    exact isAboutSettings_of_runCycles stopped
  case h_2 =>
    rcases Fallible.mapError_eq_error.1 (Fallible.map_eq_error.1 failed) with ⟨cause, _, rfl⟩
    rfl

/-- What goes wrong once a run has its settings is not about them. -/
theorem isAboutSettings_of_answer {settings : Settings}
    (failed : answer read settings = .error fault) : fault.isAboutSettings = false := by
  rcases Fallible.bind_eq_error.1 failed with unnamed | ⟨path, _, failed⟩
  · cases named : settings.plant with
    | none =>
      rw [named] at unnamed
      cases unnamed
      rfl
    | some path =>
      rw [named] at unnamed
      cases unnamed
  rcases Fallible.bind_eq_error.1 failed with unread | ⟨data, _, failed⟩
  · exact isAboutSettings_of_loadDocument unread
  rcases Fallible.bind_eq_error.1 failed with unloaded | ⟨engine, _, failed⟩
  · rcases Fallible.mapError_eq_error.1 unloaded with ⟨cause, _, rfl⟩
    rfl
  rcases Fallible.bind_eq_error.1 failed with unread | ⟨ready, _, failed⟩
  · exact isAboutSettings_of_loadState unread
  rcases Fallible.bind_eq_error.1 failed with stopped | ⟨report, _, impossible⟩
  · exact isAboutSettings_of_runEngine stopped
  · cases impossible

/-! ## Both checks -/

/-- A configuration file that can be read is loaded if it asks for a cycle. -/
theorem loadSettings_eq {path text : String} (found : Id.run (read path) = .ok text)
    (shaped : Settings.ofText? text = some file) :
    Id.run (loadSettings read path) =
      if file.isValid then .ok file else .error (.invalidConfig path) := by
  unfold loadSettings
  rw [Id.run_bind, found]
  dsimp only
  rw [shaped]
  rfl

theorem isAboutSettings_of_loadSettings {path : String}
    (failed : Id.run (loadSettings read path) = .error fault) : fault.isAboutSettings = true := by
  cases found : Id.run (read path) with
  | error cause =>
    unfold loadSettings at failed
    rw [Id.run_bind, found] at failed
    cases failed
    rfl
  | ok text =>
    cases shaped : Settings.ofText? text with
    | none =>
      unfold loadSettings at failed
      rw [Id.run_bind, found] at failed
      dsimp only at failed
      rw [shaped] at failed
      cases failed
      rfl
    | some file =>
      rw [loadSettings_eq found shaped] at failed
      split at failed <;> cases failed
      rfl

/-- The settings that a run starts from, before its options are put over them. -/
def initialSettings (read : String → Except ReadFault String) :
    Option String → Except Fault Settings
  | none => .ok {}
  | some path => Id.run (loadSettings read path)

theorem settings_eq_bind :
    Id.run (settings read options) = initialSettings read options.config >>= fun file =>
      if (file.override options).isValid then .ok (file.override options) else .error .noCycles := by
  unfold settings
  cases options.config with
  | none => rfl
  | some path =>
    dsimp only [initialSettings]
    rw [Id.run_bind]
    cases Id.run (loadSettings read path) with
    | error fault => rfl
    | ok file => rfl

theorem isAboutSettings_of_settings
    (failed : Id.run (settings read options) = .error fault) : fault.isAboutSettings = true := by
  rw [settings_eq_bind] at failed
  rcases Fallible.bind_eq_error.1 failed with unloaded | ⟨file, _, refused⟩
  · cases given : options.config with
    | none =>
      rw [given] at unloaded
      cases unloaded
    | some path =>
      rw [given] at unloaded
      exact isAboutSettings_of_loadSettings unloaded
  · split at refused <;> cases refused
    rfl

/-- A run gets past its settings if nothing goes wrong with them, whatever happens behind. -/
def GetsPastSettings (read : String → Except ReadFault String) (options : Options) : Prop :=
  ∀ fault, (Id.run (run read options)).2 = .error fault → fault.isAboutSettings = false

theorem getsPastSettings_iff :
    GetsPastSettings read options ↔ Succeeds (Id.run (settings read options)) := by
  unfold GetsPastSettings
  rw [run_eq_bind]
  cases reached : Id.run (settings read options) with
  | error fault =>
    constructor
    · intro past
      cases (isAboutSettings_of_settings reached).symm.trans (past fault rfl)
    · rintro ⟨merged, impossible⟩
      cases impossible
  | ok merged =>
    refine ⟨fun _ => ⟨merged, rfl⟩, fun _ fault failed => ?_⟩
    rw [Fallible.bind_of_eq_ok rfl] at failed
    exact isAboutSettings_of_answer failed

/-- `Configures read options stated file`: a run with the options starts from the settings `file`, in
which a number of cycles is stated if `stated` is one.  They are the settings of the configuration
file, which can be read and has the form of one, or without a configuration file the default. -/
inductive Configures (read : String → Except ReadFault String) (options : Options) :
    Option Nat → Settings → Prop where
  | default (unnamed : options.config = none) : Configures read options none {}
  | file {path text : String} {document : Json} {file : Settings}
      (named : options.config = some path) (found : read path = .ok text)
      (parsed : Toml.parse? text = some document)
      (shaped : Settings.document document = some file) :
      Configures read options (Settings.statedCycles document) file

namespace Configures

theorem of_check {path text : String} (named : options.config = some path)
    (found : read path = .ok text)
    (checked : (Toml.parse? text).any (fun document => decide
      (Settings.statedCycles document = stated ∧ Settings.document document = some file)) = true) :
    Configures read options stated file := by
  rcases (Option.any_eq_true _ _).1 checked with ⟨document, parsed, shown⟩
  rcases of_decide_eq_true shown with ⟨rfl, shaped⟩
  exact .file named found parsed shaped

section

variable (configured : Configures read options stated file)
include configured

/-- Where no number is stated, the settings have the default. -/
theorem cycles_eq : file.cycles = stated.getD 1 := by
  cases configured with
  | default unnamed => rfl
  | file named found parsed shaped => exact Settings.cycles_of_document parsed shaped

theorem merged_cycles :
    (file.override options).cycles = options.cycles.getD (stated.getD 1) := by
  rw [← configured.cycles_eq]
  rfl

/-- The settings pass the first check, which does not see the options, unless the file asks for no
cycle. -/
theorem isValid_iff : file.isValid = true ↔ stated ≠ some 0 := by
  rw [Settings.isValid_iff, configured.cycles_eq]
  cases stated with
  | none => simp
  | some number => simp [Nat.one_le_iff_ne_zero]

theorem initialSettings_eq_ok (positive : stated ≠ some 0) :
    initialSettings read options.config = .ok file := by
  have valid := configured.isValid_iff.2 positive
  cases configured with
  | default unnamed =>
    rw [unnamed]
    rfl
  | file named found parsed shaped =>
    rw [named]
    refine (loadSettings_eq found (Option.bind_eq_some_iff.2 ⟨_, parsed, shaped⟩)).trans ?_
    rw [if_pos valid]

theorem initialSettings_of_zero (zero : stated = some 0) :
    ∃ path, options.config = some path ∧
      initialSettings read options.config = .error (.invalidConfig path) := by
  have invalid : ¬ file.isValid = true := fun valid => configured.isValid_iff.1 valid zero
  cases configured with
  | default unnamed => cases zero
  | @file path _ _ _ named found parsed shaped =>
    refine ⟨path, named, ?_⟩
    rw [named]
    refine (loadSettings_eq found (Option.bind_eq_some_iff.2 ⟨_, parsed, shaped⟩)).trans ?_
    rw [if_neg invalid]

/-- Behind the first check, the second one decides. -/
theorem settings_of_ne_zero (positive : stated ≠ some 0) :
    Id.run (settings read options) =
      if 1 ≤ options.cycles.getD (stated.getD 1) then .ok (file.override options)
      else .error .noCycles := by
  rw [settings_eq_bind, Fallible.bind_of_eq_ok (configured.initialSettings_eq_ok positive),
    ← configured.merged_cycles]
  simp only [Settings.isValid_iff]

theorem settings_of_zero (zero : stated = some 0) :
    ∃ path, options.config = some path ∧
      Id.run (settings read options) = .error (.invalidConfig path) := by
  rcases configured.initialSettings_of_zero zero with ⟨path, named, refused⟩
  refine ⟨path, named, ?_⟩
  rw [settings_eq_bind, refused]
  rfl

theorem settings_eq_ok :
    Id.run (settings read options) = .ok merged ↔
      stated ≠ some 0 ∧ 1 ≤ options.cycles.getD (stated.getD 1) ∧
        merged = file.override options := by
  by_cases zero : stated = some 0
  · rcases configured.settings_of_zero zero with ⟨path, _, refused⟩
    constructor
    · intro reached
      cases refused.symm.trans reached
    · rintro ⟨positive, _⟩
      exact absurd zero positive
  · rw [configured.settings_of_ne_zero zero]
    split
    case isTrue enough => simp [zero, enough, eq_comm]
    case isFalse none => simp [none]

end

end Configures

/-- A run gets past its settings if the number of cycles that counts is at least one and the
configuration file does not ask for none, and only then.  The number that counts is the one of the
options, or else the one of the file, or else one.  The rest of the run is that of settings in which
the options take the place of what the file says. -/
theorem options_count_over_a_valid_file (configured : Configures read options stated file) :
    (GetsPastSettings read options ↔
      stated ≠ some 0 ∧ 1 ≤ options.cycles.getD (stated.getD 1)) ∧
    (GetsPastSettings read options → ∃ merged : Settings,
      (Id.run (run read options)).2 = answer read merged ∧
      merged.cycles = options.cycles.getD (stated.getD 1) ∧
      merged.plant = options.plant.or file.plant ∧
      merged.state = options.state.or file.state ∧
      merged.signals = (if options.signals = [] then file.signals else options.signals) ∧
      merged.format = (if options.json then .json else file.format) ∧
      merged.engine = file.engine) ∧
    (stated = some 0 → ∃ path, options.config = some path ∧
      (Id.run (run read options)).2 = .error (.invalidConfig path)) ∧
    (stated ≠ some 0 → options.cycles.getD (stated.getD 1) = 0 →
      (Id.run (run read options)).2 = .error .noCycles) := by
  have past : GetsPastSettings read options ↔
      stated ≠ some 0 ∧ 1 ≤ options.cycles.getD (stated.getD 1) := by
    rw [getsPastSettings_iff]
    simp only [Succeeds, configured.settings_eq_ok, exists_and_left, exists_eq, and_true]
  refine ⟨past, fun reached => ?_, fun zero => ?_, fun positive none => ?_⟩
  · rcases past.1 reached with ⟨positive, enough⟩
    have merged := configured.settings_eq_ok.2 ⟨positive, enough, rfl⟩
    refine ⟨file.override options, ?_, configured.merged_cycles, rfl, rfl, ?_, rfl, rfl⟩
    · rw [run_eq_bind, merged]
      rfl
    · simp only [Settings.override, List.isEmpty_iff]
  · rcases configured.settings_of_zero zero with ⟨path, named, refused⟩
    refine ⟨path, named, ?_⟩
    rw [run_eq_bind, refused]
    rfl
  · rw [run_eq_bind, configured.settings_of_ne_zero positive, none]
    rfl

end Files

/-- A directory with a single file. -/
def singleFile (path text : String) (other : String) : Except ReadFault String :=
  if other = path then .ok text else .error .notFound

/-- Three cycles of the options take the place of two cycles of the file. -/
theorem three_cycles_count_over_two :
    let read := singleFile "app.toml"
      "[input]\nplant = \"plant.json\"\n\n[run]\ncycles = 2\n\n[output]\nsignals = [\"TH71_1R\"]\n"
    let options : Options :=
      { config := some "app.toml", cycles := some 3, state := some "state.json", json := true }
    Configures read options (some 2)
      { plant := some "plant.json", cycles := 2, signals := ["TH71_1R"] } ∧
    GetsPastSettings read options ∧
    (Id.run (run read options)).2 = answer read
      { plant := some "plant.json", state := some "state.json", cycles := 3, format := .json,
        signals := ["TH71_1R"] } := by
  intro read options
  have configured : Configures read options (some 2)
      { plant := some "plant.json", cycles := 2, signals := ["TH71_1R"] } :=
    .of_check rfl rfl (by decide +kernel)
  rcases options_count_over_a_valid_file configured with ⟨past, merging, _⟩
  have reached : GetsPastSettings read options := past.2 (by decide)
  rcases merging reached with ⟨⟨plant, state, engine, cycles, format, signals⟩, rest, fields⟩
  rcases fields with ⟨rfl, rfl, rfl, rfl, rfl, rfl⟩
  exact ⟨configured, reached, rest⟩

/-- The number that counts is three, but the file asks for no cycle and is refused. -/
theorem three_cycles_do_not_count_over_none :
    let read := singleFile "app.toml" "[run]\ncycles = 0\n"
    let options : Options := { config := some "app.toml", cycles := some 3 }
    Configures read options (some 0) { cycles := 0 } ∧
    1 ≤ options.cycles.getD ((some 0).getD 1) ∧
    ¬ GetsPastSettings read options := by
  intro read options
  have configured : Configures read options (some 0) { cycles := 0 } :=
    .of_check rfl rfl (by decide +kernel)
  refine ⟨configured, by decide, fun past => ?_⟩
  rcases configured.settings_of_zero rfl with ⟨path, _, refused⟩
  rcases getsPastSettings_iff.1 past with ⟨merged, reached⟩
  cases refused.symm.trans reached

end Cli
end SignalBox
