import SignalBox.Proofs.FailSafe

namespace SignalBox

/-!
# Within the horizon

What a network shows is found with a limited look-ahead, and every signal ahead is asked
with one step less than the signal behind it.  So what a query shows for a signal ahead need
not be what the signal behind it went by: it was found with more look-ahead.

Where no walk from a signal is longer than the look-ahead of the network, this makes no
difference.  Further look-ahead finds nothing for such a signal, whatever cycles there are
elsewhere, so its answer is also the one with one step more, and that one goes by what the
network shows for the signals ahead.  The aspects then satisfy the equations that they would
satisfy if signals looked ahead without limit.
-/

namespace SignalGraph

variable {graph : SignalGraph} {steps : Nat} {signal : String}

/-- No walk from the signal has more steps than the number. -/
def EndsWithin (graph : SignalGraph) (steps : Nat) (signal : String) : Prop :=
  ∀ hops target, graph.Walk hops signal target → hops ≤ steps

theorem endsWithin_zero : graph.EndsWithin 0 signal ↔ graph.nextSignals signal = [] := by
  constructor
  · intro ends
    refine List.eq_nil_iff_forall_not_mem.2 fun next ahead => ?_
    exact Nat.not_succ_le_zero 0 (ends 1 next (.step ahead (.here next)))
  · intro nothing hops target walk
    cases walk with
    | here signal => exact Nat.le_refl 0
    | step first rest =>
      rw [nothing] at first
      cases first

theorem endsWithin_succ :
    graph.EndsWithin (steps + 1) signal ↔
      ∀ next, next ∈ graph.nextSignals signal → graph.EndsWithin steps next := by
  constructor
  · intro ends next ahead hops target walk
    exact Nat.le_of_succ_le_succ (ends (hops + 1) target (.step ahead walk))
  · intro ends hops target walk
    cases walk with
    | here signal => exact Nat.zero_le (steps + 1)
    | step first rest => exact Nat.succ_le_succ (ends _ first _ target rest)

instance decidableEndsWithin (graph : SignalGraph) :
    (steps : Nat) → (signal : String) → Decidable (graph.EndsWithin steps signal)
  | 0, _ => decidable_of_iff _ endsWithin_zero.symm
  | steps + 1, _ =>
    have : DecidablePred (graph.EndsWithin steps) := decidableEndsWithin graph steps
    decidable_of_iff _ endsWithin_succ.symm

end SignalGraph

namespace SignalNetwork

variable {network : SignalNetwork} {state : State} {steps further : Nat} {name : String}
  {signal : Signal} {names : List String} {answers : Table String Aspect}

/-- The best aspect directly ahead of a name, where the signals ahead have a number of steps
of look-ahead themselves. -/
def plainAhead (network : SignalNetwork) (state : State) (steps : Nat) (name : String) :
    Except Missing Aspect :=
  ((network.graph.nextSignals name).mapM (network.plain state steps)).map fun aspects =>
    aspects.foldl Aspect.best .r

theorem plainAhead_of_nothing (nothing : network.graph.nextSignals name = []) :
    network.plainAhead state steps name = .ok .r := by
  rw [plainAhead, nothing]
  rfl

/-- Look-ahead beyond the longest walk from a signal finds nothing more. -/
theorem plain_of_endsWithin (ends : network.graph.EndsWithin steps name)
    (more : steps ≤ further) :
    network.plain state further name = network.plain state steps name := by
  induction steps generalizing further name with
  | zero =>
    cases further with
    | zero => rfl
    | succ further =>
      change network.plainAnswer state name (network.plainAhead state further name) = _
      rw [plainAhead_of_nothing (SignalGraph.endsWithin_zero.1 ends)]
      rfl
  | succ steps inductionHypothesis =>
    cases further with
    | zero => cases more
    | succ further =>
      have ahead : network.plainAhead state further name = network.plainAhead state steps name := by
        refine congrArg (Except.map _) (Fallible.mapM_congr fun next listed => ?_)
        exact inductionHypothesis (SignalGraph.endsWithin_succ.1 ends next listed)
          (Nat.le_of_succ_le_succ more)
      exact congrArg (network.plainAnswer state name) ahead

/-- The answer of a signal whose walks end within its look-ahead goes by answers with the
same look-ahead. -/
theorem plain_eq_plainAnswer (ends : network.graph.EndsWithin steps name) :
    network.plain state steps name =
      network.plainAnswer state name (network.plainAhead state steps name) :=
  (plain_of_endsWithin ends (Nat.le_succ steps)).symm

/-- The answers show for a signal what its protection and the aspects that they show directly
ahead of it say: stop if it may not be passed, and otherwise what its table answers the best
of these aspects, which is stop if there are none. -/
def Solves (network : SignalNetwork) (state : State) (answers : Table String Aspect)
    (name : String) (signal : Signal) : Prop :=
  ∃ (aspect : Aspect) (ahead : List Aspect) (proceedable : Bool),
    answers.get? name = some aspect ∧
    (network.graph.nextSignals name).map answers.get? = ahead.map some ∧
    Signal.isProceedable signal.definition state = .ok proceedable ∧
    aspect = if proceedable then signal.table.indication (ahead.foldl Aspect.best .r) else .r

/-- What a query shows for some of its names is what they are given afresh. -/
theorem exists_mapM_plain (answered : network.aspects state names = .ok answers)
    {asked : List String} (among : ∀ name, name ∈ asked → name ∈ names) :
    ∃ aspects, asked.mapM (network.plain state network.graph.maxDepth) = .ok aspects ∧
      asked.map answers.get? = aspects.map some := by
  have known := aspects_succeeds.1 ⟨answers, answered⟩
  rcases Fallible.mapM_succeeds fun name listed => known name (among name listed) with
    ⟨aspects, traversed⟩
  have each : ∀ name, name ∈ asked →
      answers.get? name = (network.plain state network.graph.maxDepth name).toOption := by
    intro name listed
    rcases exists_answer answered (among name listed) with ⟨aspect, shown, given⟩
    rw [shown, given]
    rfl
  refine ⟨aspects, traversed, ?_⟩
  calc asked.map answers.get?
      = (asked.map (network.plain state network.graph.maxDepth)).map Except.toOption := by
        rw [List.map_map]
        exact List.map_congr_left each
    _ = aspects.map some := by
        rw [Fallible.mapM_eq_ok.1 traversed, List.map_map]
        rfl

theorem solves_of_aspects (defined : network.signal? name = some signal)
    (ends : network.graph.EndsWithin network.graph.maxDepth name)
    (answered : network.aspects state names = .ok answers) (asked : name ∈ names)
    (among : ∀ next, next ∈ network.graph.nextSignals name → next ∈ names) :
    network.Solves state answers name signal := by
  rcases exists_answer answered asked with ⟨aspect, shown, known⟩
  rcases exists_mapM_plain answered among with ⟨ahead, traversed, shownAhead⟩
  rw [plain_eq_plainAnswer ends, plainAnswer_eq_ok defined] at known
  rcases known with ⟨proceedable, own, rest⟩
  refine ⟨aspect, ahead, proceedable, shown, shownAhead, own, ?_⟩
  cases proceedable with
  | false => exact rest
  | true =>
    rcases rest with ⟨best, found, rfl⟩
    rw [plainAhead, traversed] at found
    cases found
    rfl

/-- A network that is built to look further ahead finds the same answer for a signal whose
walks end within the horizon. -/
theorem plain_withDepth_of_endsWithin
    (ends : network.graph.EndsWithin network.graph.maxDepth name)
    (more : network.graph.maxDepth ≤ further) :
    (network.withDepth further).plain state further name =
      network.plain state network.graph.maxDepth name := by
  rw [plain_withDepth, plain_of_endsWithin ends more]

/-- Where no walk from a signal is longer than the look-ahead of the network, every query
for it and the signals directly ahead shows aspects that solve its equation.  And whoever
builds the network to look further ahead finds the same for it: a query for the signal alone
has the same result or the same fault, and all queries that include it and succeed show the
same aspect. -/
theorem aspects_solve_within_horizon (defined : network.signal? name = some signal)
    (ends : network.graph.EndsWithin network.graph.maxDepth name) (state : State) :
    (∀ names answers, network.aspects state names = .ok answers → name ∈ names →
      (∀ next, next ∈ network.graph.nextSignals name → next ∈ names) →
      network.Solves state answers name signal) ∧
    ∀ signals types depth further, create signals types depth = .ok network → depth ≤ further →
      ∃ deeper, create signals types further = .ok deeper ∧
        deeper.aspects state [name] = network.aspects state [name] ∧
        ∀ names others answers otherAnswers, name ∈ names → name ∈ others →
          network.aspects state names = .ok answers →
          deeper.aspects state others = .ok otherAnswers →
          otherAnswers.get? name = answers.get? name := by
  constructor
  · intro names answers answered asked among
    exact solves_of_aspects defined ends answered asked among
  · intro signals types depth further created more
    rcases create_withDepth created with ⟨rfl, deeper⟩
    have same := @plain_withDepth_of_endsWithin network state further name ends more
    refine ⟨network.withDepth further, deeper further, ?_, ?_⟩
    · rw [aspects_eq, aspects_eq, List.mapM_cons, List.mapM_cons, maxDepth_withDepth, same]
      rfl
    · intro names others answers otherAnswers asked askedAmong answered otherAnswered
      refine Option.ext fun aspect => ?_
      rw [get?_of_aspects answered, get?_of_aspects otherAnswered, maxDepth_withDepth, same]
      exact ⟨fun shown => ⟨asked, shown.2⟩, fun shown => ⟨askedAmong, shown.2⟩⟩

/-- Beyond the horizon the equation fails: without look-ahead every signal of the loop shows
caution, and caution ahead would be answered by proceed. -/
example : ((loop 0).shown (loopState []) "A", (loop 0).shown (loopState []) "B",
    loopTable.indication .y) = (some .y, some .y, .g) := by
  decide +kernel

/-- A line of two signals in front of one that is not defined, with a repeater of the
second. -/
def repeatedLineSignals : List SignalDefinition :=
  [loopSignal "A" 1 "B", loopSignal "B" 2 "C", { loopSignal "R" 3 "B" with repeated := some "B" }]

def repeatedLine (maxDepth : Nat) : SignalNetwork where
  signals := Table.ofList (repeatedLineSignals.map fun signal => (signal.name, ⟨signal, loopTable⟩))
  graph := graphOf repeatedLineSignals maxDepth

/-- With the second signal stopped, the first goes by the repeater. -/
theorem repeated_line_solves_within_horizon :
    (∃ answers, (repeatedLine 3).aspects (loopState [2]) ["R", "A", "B"] = .ok answers ∧
      (repeatedLine 3).Solves (loopState [2]) answers "A" ⟨loopSignal "A" 1 "B", loopTable⟩) ∧
    (∃ deeper, create repeatedLineSignals [loopTable] 9 = .ok deeper ∧
      deeper.aspects (loopState [2]) ["A"] = (repeatedLine 3).aspects (loopState [2]) ["A"]) ∧
    (repeatedLine 3).graph.nextSignals "A" = ["B", "R"] ∧
    ["B", "R", "A"].map ((repeatedLine 3).shown (loopState [2])) =
      [some .r, some .y, some .g] := by
  have defined : (repeatedLine 3).signal? "A" = some ⟨loopSignal "A" 1 "B", loopTable⟩ := by
    decide +kernel
  have ends : (repeatedLine 3).graph.EndsWithin 3 "A" := by decide +kernel
  have ahead : (repeatedLine 3).graph.nextSignals "A" = ["B", "R"] := by decide +kernel
  have known : Succeeds ((repeatedLine 3).aspects (loopState [2]) ["R", "A", "B"]) :=
    Fallible.isOk_iff.1 (by decide +kernel)
  rcases known with ⟨answers, answered⟩
  rcases aspects_solve_within_horizon defined ends (loopState [2]) with ⟨solves, deeper⟩
  refine ⟨⟨answers, answered, ?_⟩, ?_, ahead, by decide +kernel⟩
  · refine solves _ answers answered (by decide) fun next listed => ?_
    rw [ahead] at listed
    revert next
    decide
  · rcases deeper repeatedLineSignals [loopTable] 3 9 rfl (by decide) with
      ⟨further, built, same, _⟩
    exact ⟨further, built, same⟩

end SignalNetwork

end SignalBox
