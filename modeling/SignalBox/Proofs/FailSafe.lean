import SignalBox.Proofs.LookAhead

namespace SignalBox

/-!
# Fail-safe aspects

A table is monotone if a less restrictive aspect ahead never makes the signal show a more
restrictive one.  Where all tables of a network are, restriction spreads from signals to
those behind them and nothing else does: stopping further signals makes no aspect less
restrictive, and neither does looking ahead less far, since a signal beyond the look-ahead
counts as stop.

Both are one comparison.  `plain_le` compares the plain answers in two states of which the
first lets no signal proceed that the second stops, with no more look-ahead in the first
than in the second.  The two searches need not ask the same signals, as one that stops does
not ask ahead.  The smaller look-ahead decides how far the induction goes, whatever cycles
there are.
-/

namespace Aspect

theorem le_iff {first second : Aspect} : first ≤ second ↔ first.rank ≤ second.rank :=
  Iff.rfl

theorem le_refl (aspect : Aspect) : aspect ≤ aspect :=
  Nat.le_refl aspect.rank

theorem le_trans {first second third : Aspect} (below : first ≤ second) (above : second ≤ third) :
    first ≤ third :=
  Nat.le_trans below above

/-- Stop is the most restrictive aspect. -/
theorem r_le (aspect : Aspect) : .r ≤ aspect :=
  Nat.zero_le aspect.rank

theorem best_le_iff {first second bound : Aspect} :
    first.best second ≤ bound ↔ first ≤ bound ∧ second ≤ bound := by
  simp only [best, le_iff]
  split <;> omega

/-- The best of several aspects is the least that none of them exceeds. -/
theorem foldl_best_le_iff {start bound : Aspect} {aspects : List Aspect} :
    aspects.foldl best start ≤ bound ↔
      start ≤ bound ∧ ∀ aspect, aspect ∈ aspects → aspect ≤ bound := by
  induction aspects generalizing start with
  | nil => simp
  | cons aspect rest inductionHypothesis =>
    rw [List.foldl_cons, inductionHypothesis, best_le_iff, List.forall_mem_cons, and_assoc]

/-- The best of several aspects rises if each of them gives way to one that is no lower. -/
theorem foldl_best_le_foldl_best {aspects others : List Aspect}
    (dominated : ∀ aspect, aspect ∈ aspects → ∃ other, other ∈ others ∧ aspect ≤ other) :
    aspects.foldl best .r ≤ others.foldl best .r := by
  have upper := (foldl_best_le_iff.1 (le_refl (others.foldl best .r))).2
  refine foldl_best_le_iff.2 ⟨r_le _, fun aspect listed => ?_⟩
  rcases dominated aspect listed with ⟨other, otherListed, le⟩
  exact le_trans le (upper other otherListed)

end Aspect

/-- A less restrictive aspect ahead is answered by no more restrictive one. -/
structure SignalType.IsMonotone (table : SignalType) : Prop where
  r_le_yy : table.r ≤ table.yy
  yy_le_y : table.yy ≤ table.y
  y_le_yg : table.y ≤ table.yg
  yg_le_g : table.yg ≤ table.g

theorem SignalType.IsMonotone.indication_le {table : SignalType} (monotone : table.IsMonotone)
    {first second : Aspect} (le : first ≤ second) :
    table.indication first ≤ table.indication second := by
  rcases monotone with ⟨r_le_yy, yy_le_y, y_le_yg, yg_le_g⟩
  rw [Aspect.le_iff] at r_le_yy yy_le_y y_le_yg yg_le_g ⊢
  cases first <;> cases second <;>
    first
    | exact absurd le (by decide)
    | simp only [SignalType.indication]; omega

namespace SignalNetwork

variable {network : SignalNetwork} {first second : State} {name : String}

/-- Every signal of the network has a monotone table. -/
def IsMonotone (network : SignalNetwork) : Prop :=
  ∀ name signal, network.signal? name = some signal → signal.table.IsMonotone

/-- Every signal of the network that may be passed in the first state may be passed in the
second. -/
def ProceedsWithin (network : SignalNetwork) (first second : State) : Prop :=
  ∀ name signal, network.signal? name = some signal →
    Signal.isProceedable signal.definition first = .ok true →
    Signal.isProceedable signal.definition second = .ok true

/-! ## Comparing two searches -/

/-- The first of two answers is not the less restrictive one if the best aspects ahead
compare so. -/
theorem plainAnswer_le (monotone : network.IsMonotone)
    (within : network.ProceedsWithin first second) {ahead others : Except Missing Aspect}
    (le : ∀ best other, ahead = .ok best → others = .ok other → best ≤ other)
    {aspect other : Aspect} (answered : network.plainAnswer first name ahead = .ok aspect)
    (otherAnswered : network.plainAnswer second name others = .ok other) : aspect ≤ other := by
  cases defined : network.signal? name with
  | none =>
    rw [plainAnswer, defined] at answered
    cases answered
    exact Aspect.r_le other
  | some signal =>
    rcases (plainAnswer_eq_ok defined).1 answered with ⟨proceedable, own, shown⟩
    cases proceedable with
    | false =>
      rw [show aspect = .r from shown]
      exact Aspect.r_le other
    | true =>
      -- What may be passed in the first state may be in the second, so both asked ahead.
      rcases shown with ⟨best, found, rfl⟩
      rcases (plainAnswer_eq_ok defined).1 otherAnswered with ⟨otherProceedable, otherOwn, rest⟩
      cases (within name signal defined own).symm.trans otherOwn
      rcases rest with ⟨otherBest, otherFound, rfl⟩
      exact (monotone name signal defined).indication_le (le best otherBest found otherFound)

/-- Less look-ahead in a state that lets fewer signals proceed gives no less restrictive
answer. -/
theorem plain_le (monotone : network.IsMonotone) (within : network.ProceedsWithin first second)
    {steps further : Nat} (less : steps ≤ further) {aspect other : Aspect}
    (answered : network.plain first steps name = .ok aspect)
    (otherAnswered : network.plain second further name = .ok other) : aspect ≤ other := by
  induction steps generalizing further name aspect other with
  | zero =>
    -- Without look-ahead stop is assumed ahead, whatever is found with more of it.
    rcases exists_plainAnswer network second further name with ⟨ahead, same⟩
    rw [same] at otherAnswered
    refine plainAnswer_le monotone within (fun best otherBest found _ => ?_) answered otherAnswered
    cases found
    exact Aspect.r_le otherBest
  | succ steps inductionHypothesis =>
    cases further with
    | zero => cases less
    | succ further =>
      refine plainAnswer_le monotone within (fun best otherBest found otherFound => ?_) answered
        otherAnswered
      rcases Fallible.map_eq_ok.1 found with ⟨aspects, traversed, rfl⟩
      rcases Fallible.map_eq_ok.1 otherFound with ⟨others, otherTraversed, rfl⟩
      apply Aspect.foldl_best_le_foldl_best
      intro aspect listed
      rcases Fallible.exists_of_mem_mapM traversed listed with ⟨next, ahead, shown⟩
      rcases Fallible.mem_of_mapM otherTraversed ahead with ⟨other, otherListed, otherShown⟩
      exact ⟨other, otherListed,
        inductionHypothesis (Nat.le_of_succ_le_succ less) shown otherShown⟩

/-- A signal that may be passed fails with the search ahead, and any other one does not
depend on it. -/
theorem plainAnswer_succeeds_of_ahead {ahead others : Except Missing Aspect}
    (answered : Succeeds (network.plainAnswer first name others))
    (found : Succeeds others → Succeeds ahead) :
    Succeeds (network.plainAnswer first name ahead) := by
  rw [plainAnswer_succeeds_iff] at answered ⊢
  intro signal defined
  rcases answered signal defined with ⟨proceedable, own, known⟩
  exact ⟨proceedable, own, fun proceeds => found (known proceeds)⟩

/-- Whoever looks ahead less far asks no signal that is not asked otherwise. -/
theorem plain_succeeds_of_le {steps further : Nat} (less : steps ≤ further)
    (answered : Succeeds (network.plain first further name)) :
    Succeeds (network.plain first steps name) := by
  induction steps generalizing further name with
  | zero =>
    rcases exists_plainAnswer network first further name with ⟨ahead, same⟩
    rw [same] at answered
    exact plainAnswer_succeeds_of_ahead answered fun _ => Fallible.pure_succeeds Aspect.r
  | succ steps inductionHypothesis =>
    cases further with
    | zero => cases less
    | succ further =>
      refine plainAnswer_succeeds_of_ahead answered fun found => ?_
      rcases found with ⟨best, found⟩
      rcases Fallible.map_eq_ok.1 found with ⟨aspects, traversed, _⟩
      apply Fallible.map_succeeds
      apply Fallible.mapM_succeeds
      intro next ahead
      rcases Fallible.mem_of_mapM traversed ahead with ⟨aspect, _, shown⟩
      exact inductionHypothesis (Nat.le_of_succ_le_succ less) ⟨aspect, shown⟩

/-! ## Comparing two queries -/

/-- The same signals and edges with another look-ahead. -/
def withDepth (network : SignalNetwork) (depth : Nat) : SignalNetwork :=
  { network with graph := { network.graph with maxDepth := depth } }

@[simp]
theorem maxDepth_withDepth (depth : Nat) : (network.withDepth depth).graph.maxDepth = depth :=
  rfl

/-- A network is built the same for every look-ahead, and keeps the one it is built for. -/
theorem create_withDepth {signals : List SignalDefinition} {types : List SignalType}
    {depth : Nat} (created : create signals types depth = .ok network) :
    network.graph.maxDepth = depth ∧
      ∀ further, create signals types further = .ok (network.withDepth further) := by
  rcases Fallible.bind_eq_ok.1 created with ⟨tables, collected, rest⟩
  rcases Fallible.bind_eq_ok.1 rest with ⟨found, accepted, same⟩
  cases same
  refine ⟨rfl, fun further => ?_⟩
  exact Fallible.bind_eq_ok.2 ⟨tables, collected, Fallible.bind_eq_ok.2 ⟨found, accepted, rfl⟩⟩

/-- The look-ahead of a network limits queries, and changes nothing within the limit. -/
theorem plain_withDepth (depth steps : Nat) (name : String) :
    (network.withDepth depth).plain first steps name = network.plain first steps name := by
  induction steps generalizing name with
  | zero => rfl
  | succ steps inductionHypothesis =>
    change network.plainAnswer first name (Except.map _ (List.mapM _ _)) = _
    rw [Fallible.mapM_congr fun next _ => inductionHypothesis next]
    rfl

/-- Both queries answer the name, and the first one no less restrictively. -/
def AnsweredBelow (answers others : Table String Aspect) (name : String) : Prop :=
  ∃ aspect other, answers.get? name = some aspect ∧ others.get? name = some other ∧
    aspect ≤ other

theorem exists_answer {names : List String} {answers : Table String Aspect}
    (answered : network.aspects first names = .ok answers) (asked : name ∈ names) :
    ∃ aspect, answers.get? name = some aspect ∧
      network.plain first network.graph.maxDepth name = .ok aspect := by
  rcases aspects_succeeds.1 ⟨answers, answered⟩ name asked with ⟨aspect, known⟩
  exact ⟨aspect, (get?_of_aspects answered).2 ⟨asked, known⟩, known⟩

theorem answeredBelow_of_aspects (monotone : network.IsMonotone)
    (within : network.ProceedsWithin first second) {further : Nat}
    (less : network.graph.maxDepth ≤ further) {names others : List String}
    {answers otherAnswers : Table String Aspect}
    (answered : network.aspects first names = .ok answers)
    (otherAnswered : (network.withDepth further).aspects second others = .ok otherAnswers)
    (asked : name ∈ names) (askedAmong : name ∈ others) :
    AnsweredBelow answers otherAnswers name := by
  rcases exists_answer answered asked with ⟨aspect, shown, known⟩
  rcases exists_answer otherAnswered askedAmong with ⟨other, otherShown, otherKnown⟩
  rw [plain_withDepth, maxDepth_withDepth] at otherKnown
  exact ⟨aspect, other, shown, otherShown, plain_le monotone within less known otherKnown⟩

/-- Where all tables are monotone, aspects fall to the safe side.  In a state that lets no
signal proceed that another state stops, no name is answered less restrictively than in the
other state.  And a network that is built to look ahead less far answers whenever one that
looks further does, and answers no name less restrictively. -/
theorem aspects_fail_safe (monotone : network.IsMonotone) :
    (∀ first second, network.ProceedsWithin first second →
      ∀ names others answers otherAnswers, network.aspects first names = .ok answers →
        network.aspects second others = .ok otherAnswers →
        ∀ name, name ∈ names → name ∈ others → AnsweredBelow answers otherAnswers name) ∧
    (∀ signals types depth further, create signals types depth = .ok network → depth ≤ further →
      ∃ deeper, create signals types further = .ok deeper ∧
        ∀ state names otherAnswers, deeper.aspects state names = .ok otherAnswers →
          ∃ answers, network.aspects state names = .ok answers ∧
            ∀ name, name ∈ names → AnsweredBelow answers otherAnswers name) := by
  constructor
  · intro first second within names others answers otherAnswers answered otherAnswered name asked
      askedAmong
    exact answeredBelow_of_aspects monotone within (Nat.le_refl _) answered otherAnswered asked
      askedAmong
  · intro signals types depth further created less
    rcases create_withDepth created with ⟨rfl, deeper⟩
    refine ⟨network.withDepth further, deeper further, ?_⟩
    intro state names otherAnswers otherAnswered
    have answeredToo : Succeeds (network.aspects state names) := by
      refine aspects_succeeds.2 fun name asked => plain_succeeds_of_le less ?_
      rcases exists_answer otherAnswered asked with ⟨other, _, known⟩
      exact ⟨other, plain_withDepth further further name ▸ known⟩
    rcases answeredToo with ⟨answers, answered⟩
    refine ⟨answers, answered, fun name asked => ?_⟩
    exact answeredBelow_of_aspects monotone (fun _ _ _ proceeds => proceeds) less answered
      otherAnswered asked asked

/-- The first signal of the loop falls back to caution if the one ahead is occupied, and if
it is not looked at. -/
theorem loop_aspects_fail_safe :
    (∃ answers others, (loop 1).aspects (loopState [2]) ["A"] = .ok answers ∧
      (loop 1).aspects (loopState []) ["A"] = .ok others ∧ AnsweredBelow answers others "A") ∧
    (∃ answers others, (loop 0).aspects (loopState []) ["A"] = .ok answers ∧
      (loop 1).aspects (loopState []) ["A"] = .ok others ∧ AnsweredBelow answers others "A") ∧
    (loop 1).shown (loopState [2]) "A" = some .y ∧ (loop 1).shown (loopState []) "A" = some .g ∧
    (loop 0).shown (loopState []) "A" = some .y := by
  have created : ∀ depth, create loopSignals [loopTable] depth = .ok (loop depth) := fun _ => rfl
  have rising : loopTable.IsMonotone := ⟨by decide, by decide, by decide, by decide⟩
  have monotone : ∀ depth, (loop depth).IsMonotone := by
    intro depth name signal defined
    rcases List.mem_map.1 (Table.mem_of_get?_ofList defined) with ⟨definition, _, same⟩
    cases same
    exact rising
  have within : (loop 1).ProceedsWithin (loopState [2]) (loopState []) := by
    intro name signal defined _
    rcases List.mem_map.1 (Table.mem_of_get?_ofList defined) with ⟨definition, listed, same⟩
    cases same
    rcases listed with _ | ⟨_, _ | ⟨_, _ | ⟨_, impossible⟩⟩⟩
    · rfl
    · rfl
    · rfl
    · cases impossible
  have known : Succeeds ((loop 1).aspects (loopState [2]) ["A"]) :=
    Fallible.isOk_iff.1 (by decide +kernel)
  have otherKnown : Succeeds ((loop 1).aspects (loopState []) ["A"]) :=
    Fallible.isOk_iff.1 (by decide +kernel)
  rcases known with ⟨answers, answered⟩
  rcases otherKnown with ⟨others, otherAnswered⟩
  refine ⟨⟨answers, others, answered, otherAnswered, ?_⟩, ?_, by decide +kernel,
    by decide +kernel, by decide +kernel⟩
  · exact (aspects_fail_safe (monotone 1)).1 (loopState [2]) (loopState []) within
      ["A"] ["A"] answers others answered otherAnswered "A" List.mem_cons_self List.mem_cons_self
  · rcases (aspects_fail_safe (monotone 0)).2 loopSignals [loopTable] 0 1 (created 0)
      (Nat.zero_le 1) with ⟨deeper, built, compared⟩
    cases (created 1).symm.trans built
    rcases compared (loopState []) ["A"] others otherAnswered with ⟨shallow, shown, below⟩
    exact ⟨shallow, others, shown, otherAnswered, below "A" List.mem_cons_self⟩

end SignalNetwork

end SignalBox
