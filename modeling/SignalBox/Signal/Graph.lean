import SignalBox.Ascending
import SignalBox.Table

namespace SignalBox

/-!
# The next-signal graph

The signals directly ahead of each signal, and the records of the signals further ahead up
to a fixed depth.  A signal that shares a target with a repeater also has that repeater
ahead.  Further levels are found breadth first: a signal is recorded once, at the least
depth at which it is reached.
-/

/-- A target that is `depth` signals ahead of `signal`, reached through `source`. -/
structure NextSignal where
  signal : String
  source : String
  target : String
  depth : Nat
deriving DecidableEq, Repr

/-- The signals directly ahead of every signal that has one, and the depth of the records. -/
structure SignalGraph where
  maxDepth : Nat
  next : Table String (List String)
deriving DecidableEq, Inhabited

namespace SignalGraph

/-- The declared targets of a signal, each one once, in the order of their first edge. -/
def declared (edges : List (String × String)) (signal : String) : List String :=
  ((edges.filter fun edge => edge.1 == signal).map Prod.snd).eraseDups

/-- The repeaters that a signal has ahead because the two share a declared target.  A
repeater has none. -/
def repeated (edges : List (String × String)) (repeaters : List String) (signal : String) :
    List String :=
  if repeaters.contains signal then []
  else
    (Ascending.ofList (edges.map Prod.fst)).filter fun repeater =>
      repeaters.contains repeater && repeater != signal &&
        (declared edges repeater).any (declared edges signal).contains

/-- The signals directly ahead: declared targets before the repeaters that are no target
already. -/
def directlyAhead (edges : List (String × String)) (repeaters : List String)
    (signal : String) : List String :=
  let targets := declared edges signal
  targets ++ (repeated edges repeaters signal).filter fun repeater => !targets.contains repeater

/-- The graph of a list of direct edges. -/
def build (edges : List (String × String)) (repeaters : List String) (maxDepth : Nat) :
    SignalGraph where
  maxDepth := maxDepth
  next := Table.ofList ((Ascending.ofList (edges.map Prod.fst)).map fun signal =>
    (signal, directlyAhead edges repeaters signal))

/-- The names of the signals directly ahead. -/
def nextSignals (graph : SignalGraph) (signal : String) : List String :=
  (graph.next.get? signal).getD []

/-- The candidates whose target is neither seen nor that of an earlier candidate. -/
def fresh (seen : List String) : List (String × String) → List (String × String)
  | [] => []
  | candidate :: rest =>
    if seen.contains candidate.2 then fresh seen rest
    else candidate :: fresh (candidate.2 :: seen) rest

/-- The steps from the targets of a level. -/
def stepsFrom (graph : SignalGraph) (level : List NextSignal) : List (String × String) :=
  level.flatMap fun record =>
    (graph.nextSignals record.target).map fun target => (record.target, target)

/-- The levels behind a level, up to a number of them and to the first empty one. -/
def levelsBehind (graph : SignalGraph) (signal : String) :
    Nat → (depth : Nat) → (seen : List String) → List NextSignal → List (List NextSignal)
  | 0, _, _, _ => []
  | further + 1, depth, seen, previous =>
    match fresh seen (graph.stepsFrom previous) with
    | [] => []
    | found =>
      let level := found.map fun step => NextSignal.mk signal step.1 step.2 depth
      level :: levelsBehind graph signal further (depth + 1) (found.map Prod.snd ++ seen) level

/-- The records of a signal by depth, beginning with depth one. -/
def levels (graph : SignalGraph) (signal : String) : List (List NextSignal) :=
  match graph.nextSignals signal with
  | [] => []
  | targets =>
    let level := targets.map fun target => NextSignal.mk signal signal target 1
    level :: levelsBehind graph signal (graph.maxDepth - 1) 2 targets level

/-- The records exactly `depth` signals ahead. -/
def successors (graph : SignalGraph) (signal : String) : Nat → List NextSignal
  | 0 => []
  | depth + 1 => ((graph.levels signal)[depth]?).getD []

/-- All records of a signal, the nearest first. -/
def ahead (graph : SignalGraph) (signal : String) : List NextSignal :=
  (graph.levels signal).flatten

/-- The number of records. -/
def size (graph : SignalGraph) : Nat :=
  (graph.next.keys.flatMap graph.ahead).length

end SignalGraph

end SignalBox
