import SignalBox.Document.Basic
import SignalBox.Relay.Basic
import SignalBox.Signal.Graph

namespace SignalBox
namespace Document

/-!
# Results of evaluations in documents

Relay changes, the cycles they make up, the records of the signals ahead, and aspects.
-/

/-- A change: the route, the letters for the relay and whether it is raised. -/
def ofChange (change : RelayChange) : Json :=
  .array [.ofNat change.route, .string change.relay.abbreviation, .bool change.raised]

/-- What a cycle wrote, with the numbers of changes of the relays that changed. -/
def ofSweep (report : SweepReport) : Json :=
  let changed := Relay.all.filter fun relay => report.count relay != 0
  .object
    [("changes", .ofList ofChange report.changes),
     ("counts", .object (changed.map fun relay =>
       (relay.abbreviation, .ofNat (report.count relay)))),
     ("quiescent", .bool report.isQuiescent)]

/-- A record ahead of a signal: the depth, the signal before the target, the target, and
whether the record is one of that signal. -/
def ofNextSignal (signal : String) (record : NextSignal) : Json :=
  .array
    [.ofNat record.depth, .string record.source, .string record.target,
     .bool (record.signal == signal)]

/-- The members for a graph, with the records of some signals. -/
def graphMembers (graph : SignalGraph) (signals : List String) :
    List (Json.Name × Json) :=
  let recorded := signals.filter fun signal => !(graph.ahead signal).isEmpty
  let records := recorded.map fun signal : String =>
    ((signal : Json.Name), Json.ofList (ofNextSignal signal) (graph.ahead signal))
  [("len", .ofNat graph.size),
   ("is_empty", .bool (graph.size == 0)),
   ("max_depth", .ofNat graph.maxDepth),
   ("ahead", .object records)]

/-- Aspects by the names of their signals. -/
def ofAspects (aspects : Table String Aspect) : Json :=
  ofByName ofAspect aspects

def ofStatistics (statistics : PlantStatistics) : Json :=
  .object
    [("num_plants", .ofNat statistics.plants),
     ("num_objects", .ofNat statistics.objects),
     ("num_routes", .ofNat statistics.routes),
     ("num_throw_outs", .ofNat statistics.throwOuts)]

end Document
end SignalBox
