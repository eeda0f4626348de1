import SignalBox.Signal.Network
import SignalBox.State

namespace SignalBox

/-!
# Aspects from the signals ahead

A signal that may not be passed shows stop.  Otherwise it answers the best aspect directly
ahead by its table, where a signal ahead is asked with one step of look-ahead less, and
without look-ahead stop is assumed ahead.  Answers are kept by name and look-ahead while a
list of names is asked for.
-/

namespace Signal

/-- Whether the protected track circuit, if any, is clear. -/
def isTrackClear (signal : SignalDefinition) (state : State) : Except Missing Bool :=
  match signal.track with
  | none => pure true
  | some track => (state.track track).map fun track => !track.occupied

/-- Whether the signal-control relay of some route is raised, for a signal with routes. -/
def isRouteCleared (signal : SignalDefinition) (state : State) : Except Missing Bool :=
  if signal.isAbsolute then do
    let cleared ← signal.routes.mapM fun route =>
      (state.route route).map RouteRelays.signalControl
    pure (cleared.any id)
  else pure true

/-- Whether direction routes are on a side; the first one that is not decides. -/
def areOnSide (state : State) (side : Side) : List ObjectId → Except Missing Bool
  | [] => pure true
  | route :: rest => do
    let current ← state.directionRoute route
    if current = side then areOnSide state side rest else pure false

/-- Whether the direction routes, if the signal has a direction, are on it. -/
def isDirectionSet (signal : SignalDefinition) (state : State) : Except Missing Bool :=
  match signal.direction with
  | none => pure true
  | some side => areOnSide state side signal.directionRoutes

/-- Whether the signal may be passed as far as its own protection goes. -/
def isProceedable (signal : SignalDefinition) (state : State) : Except Missing Bool := do
  if ← isTrackClear signal state then
    if ← isRouteCleared signal state then isDirectionSet signal state else pure false
  else pure false

end Signal

namespace SignalNetwork

/-- The answers found so far, by name and look-ahead. -/
abbrev Memo := Table (String × Nat) Aspect

/-- The best one of a given aspect and those of several signals. -/
def bestOf (ask : String → Memo → Except Missing (Aspect × Memo)) :
    List String → Aspect → Memo → Except Missing (Aspect × Memo)
  | [], found, memo => .ok (found, memo)
  | name :: rest, found, memo => do
    let (aspect, memo) ← ask name memo
    bestOf ask rest (found.best aspect) memo

/-- The aspect of one signal, given the search for the best aspect ahead of it. -/
def answer (network : SignalNetwork) (state : State) (name : String)
    (ahead : Memo → Except Missing (Aspect × Memo)) (memo : Memo) :
    Except Missing (Aspect × Memo) :=
  match network.signal? name with
  | none => .ok (.r, memo)
  | some signal => do
    if ← Signal.isProceedable signal.definition state then
      let (best, memo) ← ahead memo
      .ok (signal.table.indication best, memo)
    else .ok (.r, memo)

/-- An answer from the memo, or one that is found and kept. -/
def remember (key : String × Nat) (find : Memo → Except Missing (Aspect × Memo)) (memo : Memo) :
    Except Missing (Aspect × Memo) :=
  match memo.get? key with
  | some aspect => .ok (aspect, memo)
  | none => do
    let (aspect, memo) ← find memo
    .ok (aspect, memo.insert key aspect)

/-- The aspect of a signal with a number of steps of look-ahead. -/
def aspectWithin (network : SignalNetwork) (state : State) :
    Nat → String → Memo → Except Missing (Aspect × Memo)
  | 0, name, memo =>
    remember (name, 0) (network.answer state name fun memo => .ok (.r, memo)) memo
  | steps + 1, name, memo =>
    remember (name, steps + 1)
      (network.answer state name fun memo =>
        bestOf (aspectWithin network state steps) (network.graph.nextSignals name) .r memo)
      memo

/-- The aspects of several names, added to those collected before. -/
def collectAspects (network : SignalNetwork) (state : State) :
    List String → Table String Aspect → Memo → Except Missing (Table String Aspect)
  | [], collected, _ => .ok collected
  | name :: rest, collected, memo => do
    let (aspect, memo) ← network.aspectWithin state network.graph.maxDepth name memo
    collectAspects network state rest (collected.insert name aspect) memo

/-- The aspects of the named signals; a name without signal shows stop. -/
def aspects (network : SignalNetwork) (state : State) (names : List String) :
    Except Missing (Table String Aspect) :=
  network.collectAspects state names .empty .empty

/-- The aspects of the named signals and of the signals directly ahead of them. -/
def aspectsWithNext (network : SignalNetwork) (state : State) (names : List String) :
    Except Missing (Table String Aspect) :=
  network.aspects state (names.flatMap fun name => name :: network.graph.nextSignals name)

end SignalNetwork

end SignalBox
