import SignalBox.Proofs.Answers
import SignalBox.Proofs.Levels

namespace SignalBox

/-!
# How far a signal looks ahead

The answer of a name rests on its own protection and on that of signals ahead of it, at most
as many steps away as the network looks ahead.  Two states that agree there give the same
answer, or the same fault.  The signals that matter are those of the records of the name;
the records are found once, level by level, while the answer is found along every
walk, and `SignalGraph.records_ahead_of_walk` says that the two do not differ.

Only the protection of signals that are defined has to agree, and of it only what is read:
nothing is assumed of other objects, of other entries of the same objects, or of signals
further ahead.
-/

/-- The two states agree on what the protection of the signal reads: whether its track
circuit is occupied, which of its routes have the signal-control relay raised, and on which
side its direction routes are if it has a direction.  An entry that is missing in one of them
is missing in the other. -/
structure SignalDefinition.SameProtection (signal : SignalDefinition) (first second : State) :
    Prop where
  track : ∀ id, signal.track = some id →
    (first.track id).map TrackState.occupied = (second.track id).map TrackState.occupied
  routes : ∀ id, id ∈ signal.routes →
    (first.route id).map RouteRelays.signalControl =
      (second.route id).map RouteRelays.signalControl
  directionRoutes : ∀ side, signal.direction = some side → ∀ id, id ∈ signal.directionRoutes →
    first.directionRoute id = second.directionRoute id

namespace Signal

variable {signal : SignalDefinition} {first second : State}

theorem isTrackClear_congr (same : signal.SameProtection first second) :
    isTrackClear signal first = isTrackClear signal second := by
  unfold isTrackClear
  cases guards : signal.track with
  | none => rfl
  | some id =>
    have clear : ∀ state : State, ((state.track id).map fun track => !track.occupied) =
        ((state.track id).map TrackState.occupied).map Bool.not := by
      intro state
      cases state.track id <;> rfl
    dsimp only
    rw [clear, clear, same.track id guards]

theorem isRouteCleared_congr (same : signal.SameProtection first second) :
    isRouteCleared signal first = isRouteCleared signal second := by
  unfold isRouteCleared
  rw [Fallible.mapM_congr same.routes]

theorem areOnSide_congr {side : Side} {routes : List ObjectId}
    (same : ∀ id, id ∈ routes → first.directionRoute id = second.directionRoute id) :
    areOnSide first side routes = areOnSide second side routes := by
  induction routes with
  | nil => rfl
  | cons id rest inductionHypothesis =>
    rw [areOnSide, areOnSide, same id List.mem_cons_self,
      inductionHypothesis fun other member => same other (List.mem_cons_of_mem id member)]

theorem isDirectionSet_congr (same : signal.SameProtection first second) :
    isDirectionSet signal first = isDirectionSet signal second := by
  unfold isDirectionSet
  cases direction : signal.direction with
  | none => rfl
  | some side => exact areOnSide_congr (same.directionRoutes side direction)

theorem isProceedable_congr (same : signal.SameProtection first second) :
    isProceedable signal first = isProceedable signal second := by
  unfold isProceedable
  rw [isTrackClear_congr same, isRouteCleared_congr same, isDirectionSet_congr same]

end Signal

namespace SignalNetwork

variable {network : SignalNetwork} {first second : State} {steps : Nat} {name : String}

/-- The two states agree on the protection of the signal of a name, if there is one. -/
def Agree (network : SignalNetwork) (first second : State) (name : String) : Prop :=
  ∀ signal, network.signal? name = some signal →
    signal.definition.SameProtection first second

theorem plainAnswer_congr (agree : network.Agree first second name)
    {ahead others : Except Missing Aspect} (same : ahead = others) :
    network.plainAnswer first name ahead = network.plainAnswer second name others := by
  unfold plainAnswer
  cases defined : network.signal? name with
  | none => rfl
  | some signal =>
    dsimp only
    rw [Signal.isProceedable_congr (agree signal defined), same]

/-- States that agree on every signal that a walk of limited length reaches give the same
plain answers under that limit. -/
theorem plain_congr (agree : ∀ hops target, hops ≤ steps →
      network.graph.Walk hops name target → network.Agree first second target) :
    network.plain first steps name = network.plain second steps name := by
  have own : network.Agree first second name := agree 0 name (Nat.zero_le steps) (.here name)
  induction steps generalizing name with
  | zero => exact plainAnswer_congr own rfl
  | succ steps inductionHypothesis =>
    apply plainAnswer_congr own
    refine congrArg (Except.map _) (Fallible.mapM_congr fun next listed => ?_)
    have further : ∀ hops target, hops ≤ steps → network.graph.Walk hops next target →
        network.Agree first second target :=
      fun hops target near walk => agree (hops + 1) target (Nat.succ_le_succ near)
        (.step listed walk)
    exact inductionHypothesis further (further 0 next (Nat.zero_le steps) (.here next))

/-- What a name answers is the same in both states: a query for it alone gives the same
result or the same fault, and any two queries that ask for it among others and succeed show
the same aspect for it. -/
structure SameAnswer (network : SignalNetwork) (first second : State) (name : String) : Prop where
  alone : network.aspects first [name] = network.aspects second [name]
  among : ∀ names others answers otherAnswers, name ∈ names → name ∈ others →
    network.aspects first names = .ok answers →
    network.aspects second others = .ok otherAnswers →
    answers.get? name = otherAnswers.get? name

theorem sameAnswer_of_plain (same : network.plain first network.graph.maxDepth name =
      network.plain second network.graph.maxDepth name) :
    network.SameAnswer first second name where
  alone := by
    rw [aspects_eq, aspects_eq, List.mapM_cons, List.mapM_cons, same]
    rfl
  among names others answers otherAnswers asked askedAmong answered otherAnswered := by
    ext aspect
    rw [get?_of_aspects answered, get?_of_aspects otherAnswered, same]
    exact ⟨fun known => ⟨askedAmong, known.2⟩, fun known => ⟨asked, known.2⟩⟩

/-- A signal looks ahead as far as its records go and no further.  If two states agree on
the protection of the name and of every target of its records, its answer is the same in
both; and so it is if they agree on all signals that are at most as many steps away as the
network looks ahead, whatever cycles the network has. -/
theorem answers_rest_on_signals_ahead (network : SignalNetwork) (first second : State)
    (name : String) :
    ((network.Agree first second name ∧
        ∀ record, record ∈ network.graph.ahead name →
          network.Agree first second record.target) →
      network.SameAnswer first second name) ∧
    ((∀ hops target, hops ≤ network.graph.maxDepth → network.graph.Walk hops name target →
        network.Agree first second target) →
      network.SameAnswer first second name) := by
  constructor
  · rintro ⟨own, ahead⟩
    apply sameAnswer_of_plain
    apply plain_congr
    intro hops target near walk
    cases hops with
    | zero =>
      cases walk
      exact own
    | succ hops =>
      rcases List.mem_map.1 (SignalGraph.records_ahead_of_walk walk (by omega)) with
        ⟨record, listed, rfl⟩
      exact ahead record listed
  · intro agree
    exact sameAnswer_of_plain (plain_congr agree)

/-! ## Three signals around a loop -/

/-- A signal that protects the track circuit of a number and has one signal ahead. -/
def loopSignal (name : String) (track : ObjectId) (next : String) : SignalDefinition where
  name
  typeName := "three"
  track := some track
  nextSignals := [next]

def loopSignals : List SignalDefinition :=
  [loopSignal "A" 1 "B", loopSignal "B" 2 "C", loopSignal "C" 3 "A"]

/-- Caution before stop, and proceed before anything better than restricted speed. -/
def loopTable : SignalType :=
  ⟨"three", .y, .yg, .g, .g, .g⟩

def loop (maxDepth : Nat) : SignalNetwork where
  signals := Table.ofList (loopSignals.map fun signal => (signal.name, ⟨signal, loopTable⟩))
  graph := graphOf loopSignals maxDepth

/-- The state in which those of the three tracks are occupied that stand in the list. -/
def loopState (occupied : List ObjectId) : State where
  now := default
  tracks := Table.ofList ([1, 2, 3].map fun id => (id, { occupied := occupied.contains id }))

/-- What a name shows if it is asked alone. -/
def shown (network : SignalNetwork) (state : State) (name : String) : Option Aspect :=
  (network.aspects state [name]).toOption.bind fun answers => answers.get? name

/-- With one step of look-ahead the first signal rests on itself and the second, although
the third is ahead of it as well and is the one that tells the states apart. -/
theorem loop_answer_rests_on_signals_ahead :
    (loop 1).SameAnswer (loopState []) (loopState [3]) "A" ∧
      (loop 1).shown (loopState [3]) "A" = some .g ∧
      (loop 1).shown (loopState []) "C" = some .g ∧
      (loop 1).shown (loopState [3]) "C" = some .r := by
  have agree : ∀ name track next,
      (loop 1).signal? name = some ⟨loopSignal name track next, loopTable⟩ →
      (loopState []).track track = (loopState [3]).track track →
      (loop 1).Agree (loopState []) (loopState [3]) name := by
    intro name track next defined same signal found
    cases defined.symm.trans found
    refine ⟨?_, ?_, ?_⟩
    · rintro id ⟨⟩
      exact congrArg _ same
    · rintro id ⟨⟩
    · rintro side ⟨⟩
  have first := agree "A" 1 "B" (by decide +kernel) rfl
  have second := agree "B" 2 "C" (by decide +kernel) rfl
  have ahead : (loop 1).graph.ahead "A" = [⟨"A", "A", "B", 1⟩] := by decide +kernel
  refine ⟨(answers_rest_on_signals_ahead (loop 1) (loopState []) (loopState [3]) "A").1
    ⟨first, ?_⟩, by decide +kernel, by decide +kernel, by decide +kernel⟩
  rw [ahead]
  intro record listed
  cases List.mem_singleton.1 listed
  exact second

end SignalNetwork

end SignalBox
