import SignalBox.Document.Basic
import SignalBox.Json.Printer
import SignalBox.Relay.Basic

namespace SignalBox

/-!
# Reports of a run

The relay changes of every cycle, with routes by name, and the aspects at the end.  A
report is written as aligned text or as a JSON document.
-/

/-- A relay change with the name of its route. -/
structure NamedChange where
  route : String
  relay : Relay
  raised : Bool
deriving DecidableEq, Repr

structure CycleSummary where
  cycle : Nat
  changes : List NamedChange
deriving DecidableEq, Repr

structure RunReport where
  cycles : List CycleSummary := []
  aspects : Table String Aspect := .empty
deriving Inhabited

namespace RunReport

/-- A change with the name of its route, or its number where it has none. -/
def nameChange (plant : Database) (change : RelayChange) : NamedChange where
  route := match plant.object? change.route with
    | some object => object.name
    | none => Text.ofNat change.route
  relay := change.relay
  raised := change.raised

/-- Add the changes of a cycle. -/
def addCycle (report : RunReport) (plant : Database) (cycle : Nat) (sweep : SweepReport) :
    RunReport :=
  { report with
    cycles := report.cycles ++ [⟨cycle, sweep.changes.map (nameChange plant)⟩] }

/-- The number of changes in all cycles. -/
def totalChanges (report : RunReport) : Nat :=
  (report.cycles.flatMap CycleSummary.changes).length

/-- The aspects in ascending order of names. -/
def sortedAspects (report : RunReport) : List (String × Aspect) :=
  (Ascending.ofList report.aspects.keys).filterMap fun name =>
    (report.aspects.get? name).map fun aspect => (name, aspect)

/-- A text filled up with blanks to a number of characters. -/
def padded (width : Nat) (text : String) : String :=
  text ++ String.ofList (List.replicate (width - text.length) ' ')

/-- The number of characters of the longest text. -/
def widest (texts : List String) : Nat :=
  (texts.map String.length).foldl max 0

/-- The lines of one cycle. -/
def cycleLines (summary : CycleSummary) : List String :=
  let title := "Cycle " ++ Text.ofNat summary.cycle ++ ": "
  if summary.changes.isEmpty then [title ++ "no relay changes"]
  else
    let width := widest (summary.changes.map NamedChange.route)
    (title ++ Text.ofNat summary.changes.length ++ " relay changes") ::
      summary.changes.map fun change =>
        "  " ++ padded width change.route ++ "  " ++ padded 2 change.relay.abbreviation ++
          "  " ++ (if change.raised then "raised" else "dropped")

/-- The lines of the aspects. -/
def aspectLines (aspects : List (String × Aspect)) : List String :=
  if aspects.isEmpty then ["  (none)"]
  else
    let width := widest (aspects.map Prod.fst)
    aspects.map fun entry => "  " ++ padded width entry.1 ++ "  " ++ entry.2.letters

/-- The report as aligned text, every line ended. -/
def text (report : RunReport) : String :=
  let lines := report.cycles.flatMap cycleLines ++ ["", "Signal aspects:"] ++
    aspectLines report.sortedAspects
  String.join (lines.map fun line => line ++ "\n")

/-- The name of a relay in documents. -/
def relayName : Relay → String
  | .lever => "Lever"
  | .route => "Route"
  | .signalControl => "SignalControl"
  | .throwOutX => "ThrowOutX"
  | .throwOutXr => "ThrowOutXr"
  | .throwOutYs => "ThrowOutYs"

def ofNamedChange (change : NamedChange) : Json :=
  .object
    [("route", .string change.route),
     ("relay", .string (relayName change.relay)),
     ("raised", .bool change.raised)]

def ofCycle (summary : CycleSummary) : Json :=
  .object [("cycle", .ofNat summary.cycle), ("changes", .ofList ofNamedChange summary.changes)]

/-- The report as a JSON value. -/
def document (report : RunReport) : Json :=
  .object
    [("cycles", .ofList ofCycle report.cycles),
     ("aspects",
       .object (report.sortedAspects.map fun entry => (entry.1, Document.ofAspect entry.2)))]

/-- The report as a JSON document on several lines. -/
def json (report : RunReport) : String :=
  report.document.pretty

end RunReport

end SignalBox
