import SignalBox.Proofs.Fallible
import SignalBox.Signal.Propagation

namespace SignalBox

/-!
# Answers of the signal network

What a signal shows is found by a search that keeps its answers by name and look-ahead.
`plain` is the same recursion without them.  A memo is sound for a state if every answer
it keeps is the plain one; each search returns the plain answer and a sound memo, or fails
as the plain recursion does.  So a query gives every name its plain answer, whatever other
names it asks for and in whatever order.
-/

namespace SignalNetwork

/-- The aspect of one signal, given the best aspect ahead of it. -/
def plainAnswer (network : SignalNetwork) (state : State) (name : String)
    (ahead : Except Missing Aspect) : Except Missing Aspect :=
  match network.signal? name with
  | none => .ok .r
  | some signal => do
    if ← Signal.isProceedable signal.definition state then
      ahead.map signal.table.indication
    else .ok .r

/-- The aspect of a signal with a number of steps of look-ahead, found afresh. -/
def plain (network : SignalNetwork) (state : State) : Nat → String → Except Missing Aspect
  | 0, name => network.plainAnswer state name (.ok .r)
  | steps + 1, name =>
    network.plainAnswer state name
      (((network.graph.nextSignals name).mapM (plain network state steps)).map fun aspects =>
        aspects.foldl Aspect.best .r)

variable {network : SignalNetwork} {state : State}

/-- Every answer that is kept is the plain one. -/
def Sound (network : SignalNetwork) (state : State) (memo : Memo) : Prop :=
  ∀ name steps aspect, memo.get? (name, steps) = some aspect →
    network.plain state steps name = .ok aspect

/-- A search gives a plain answer with a sound memo, or fails as the plain one does. -/
def Finds (network : SignalNetwork) (state : State) (result : Except Missing (Aspect × Memo))
    (expected : Except Missing Aspect) : Prop :=
  ∃ memo, Sound network state memo ∧ result = expected.map fun aspect => (aspect, memo)

theorem sound_empty : Sound network state .empty := by
  intro name steps aspect impossible
  cases impossible

theorem sound_insert {memo : Memo} {name : String} {steps : Nat} {aspect : Aspect}
    (sound : Sound network state memo) (known : network.plain state steps name = .ok aspect) :
    Sound network state (memo.insert (name, steps) aspect) := by
  intro otherName otherSteps other kept
  rw [Table.get?_insert] at kept
  by_cases same : (name, steps) = (otherName, otherSteps)
  · rw [if_pos same] at kept
    cases same
    cases kept
    exact known
  · rw [if_neg same] at kept
    exact sound otherName otherSteps other kept

/-! ## One search -/

theorem finds_remember {memo : Memo} {name : String} {steps : Nat}
    {find : Memo → Except Missing (Aspect × Memo)} (sound : Sound network state memo)
    (found : Finds network state (find memo) (network.plain state steps name)) :
    Finds network state (remember (name, steps) find memo) (network.plain state steps name) := by
  unfold remember
  cases kept : memo.get? (name, steps) with
  | some aspect =>
    refine ⟨memo, sound, ?_⟩
    rw [sound name steps aspect kept]
    rfl
  | none =>
    rcases found with ⟨next, nextSound, result⟩
    rw [result]
    cases known : network.plain state steps name with
    | error missing => exact ⟨memo, sound, rfl⟩
    | ok aspect => exact ⟨next.insert (name, steps) aspect, sound_insert nextSound known, rfl⟩

theorem finds_answer {memo : Memo} {name : String}
    {ahead : Memo → Except Missing (Aspect × Memo)} {expected : Except Missing Aspect}
    (sound : Sound network state memo) (found : Finds network state (ahead memo) expected) :
    Finds network state (network.answer state name ahead memo)
      (network.plainAnswer state name expected) := by
  unfold answer plainAnswer
  cases network.signal? name with
  | none => exact ⟨memo, sound, rfl⟩
  | some signal =>
    dsimp only
    cases Signal.isProceedable signal.definition state with
    | error missing => exact ⟨memo, sound, rfl⟩
    | ok proceedable =>
      cases proceedable with
      | false => exact ⟨memo, sound, rfl⟩
      | true =>
        rcases found with ⟨next, nextSound, result⟩
        refine ⟨next, nextSound, ?_⟩
        change (ahead memo >>= _) = _
        rw [result]
        cases expected <;> rfl

theorem finds_bestOf {ask : String → Memo → Except Missing (Aspect × Memo)}
    {single : String → Except Missing Aspect}
    (asked : ∀ name memo, Sound network state memo →
      Finds network state (ask name memo) (single name))
    (names : List String) (best : Aspect) {memo : Memo} (sound : Sound network state memo) :
    Finds network state (bestOf ask names best memo)
      ((names.mapM single).map fun aspects => aspects.foldl Aspect.best best) := by
  induction names generalizing best memo with
  | nil => exact ⟨memo, sound, rfl⟩
  | cons name rest inductionHypothesis =>
    rcases asked name memo sound with ⟨next, nextSound, result⟩
    rw [bestOf, result, List.mapM_cons]
    cases single name with
    | error missing => exact ⟨next, nextSound, rfl⟩
    | ok aspect =>
      rcases inductionHypothesis (best.best aspect) nextSound with ⟨last, lastSound, later⟩
      refine ⟨last, lastSound, ?_⟩
      change bestOf ask rest (best.best aspect) next = _
      rw [later]
      change _ = Except.map _ (Except.map _ (rest.mapM single >>= fun aspects => _))
      cases rest.mapM single <;> rfl

theorem finds_aspectWithin (steps : Nat) (name : String) {memo : Memo}
    (sound : Sound network state memo) :
    Finds network state (network.aspectWithin state steps name memo)
      (network.plain state steps name) := by
  induction steps generalizing name memo with
  | zero => exact finds_remember sound (finds_answer sound ⟨memo, sound, rfl⟩)
  | succ steps inductionHypothesis =>
    apply finds_remember sound
    apply finds_answer sound
    apply finds_bestOf _ _ _ sound
    intro other kept keptSound
    exact inductionHypothesis other keptSound

/-! ## A whole query -/

private theorem collectAspects_eq (names : List String) (collected : Table String Aspect)
    {memo : Memo} (sound : Sound network state memo) :
    network.collectAspects state names collected memo =
      (names.mapM fun name =>
          (network.plain state network.graph.maxDepth name).map fun aspect => (name, aspect)).map
        fun entries => entries.foldl (fun table entry => table.insert entry.1 entry.2) collected := by
  induction names generalizing collected memo with
  | nil => rfl
  | cons name rest inductionHypothesis =>
    rcases finds_aspectWithin network.graph.maxDepth name sound with ⟨next, nextSound, result⟩
    rw [collectAspects, result, List.mapM_cons]
    cases network.plain state network.graph.maxDepth name with
    | error missing => rfl
    | ok aspect =>
      change network.collectAspects state rest (collected.insert name aspect) next = _
      rw [inductionHypothesis (collected.insert name aspect) nextSound]
      change _ = Except.map _ (List.mapM _ rest >>= fun entries => _)
      cases List.mapM (fun name =>
        (network.plain state network.graph.maxDepth name).map fun aspect => (name, aspect)) rest <;>
          rfl

/-- A query gives every name its plain answer, and fails where one of the plain answers
does. -/
theorem aspects_eq (names : List String) :
    network.aspects state names =
      (names.mapM fun name =>
        (network.plain state network.graph.maxDepth name).map fun aspect =>
          (name, aspect)).map Table.ofList :=
  collectAspects_eq names .empty sound_empty

theorem aspects_succeeds {names : List String} :
    Succeeds (network.aspects state names) ↔
      ∀ name, name ∈ names → Succeeds (network.plain state network.graph.maxDepth name) := by
  rw [aspects_eq]
  constructor
  · rintro ⟨table, answered⟩ name member
    rcases Fallible.map_eq_ok.1 answered with ⟨entries, traversed, _⟩
    rcases Fallible.mem_of_mapM traversed member with ⟨entry, _, found⟩
    rcases Fallible.map_eq_ok.1 found with ⟨aspect, known, _⟩
    exact ⟨aspect, known⟩
  · intro known
    apply Fallible.map_succeeds
    apply Fallible.mapM_succeeds
    intro name member
    exact Fallible.map_succeeds (known name member)

/-- The names with an answer are those that were asked for. -/
theorem get?_of_aspects {names : List String} {table : Table String Aspect}
    (answered : network.aspects state names = .ok table) {name : String} {aspect : Aspect} :
    table.get? name = some aspect ↔
      name ∈ names ∧ network.plain state network.graph.maxDepth name = .ok aspect := by
  rw [aspects_eq] at answered
  rcases Fallible.map_eq_ok.1 answered with ⟨entries, traversed, rfl⟩
  have plainValue : ∀ {name aspect}, (Table.ofList entries).get? name = some aspect →
      name ∈ names ∧ network.plain state network.graph.maxDepth name = .ok aspect := by
    intro name aspect found
    rcases Fallible.exists_of_mem_mapM traversed (Table.mem_of_get?_ofList found) with
      ⟨other, asked, own⟩
    rcases Fallible.map_eq_ok.1 own with ⟨value, known, same⟩
    cases same
    exact ⟨asked, known⟩
  constructor
  · exact plainValue
  · rintro ⟨asked, known⟩
    rcases Fallible.mem_of_mapM traversed asked with ⟨entry, listed, own⟩
    rcases Fallible.map_eq_ok.1 own with ⟨value, _, rfl⟩
    have present : name ∈ (Table.ofList entries).keys :=
      (Table.mem_keys_ofList entries name).2 (List.mem_map_of_mem listed)
    rcases (Table.mem_keys_iff_get? _ name).1 present with ⟨kept, found⟩
    rw [found, ← Except.ok.inj ((plainValue found).2.symm.trans known)]

/-! ## Which signals proceed -/

theorem plainAnswer_eq_ok {name : String} {signal : Signal} {ahead : Except Missing Aspect}
    {aspect : Aspect} (defined : network.signal? name = some signal) :
    network.plainAnswer state name ahead = .ok aspect ↔
      ∃ proceedable, Signal.isProceedable signal.definition state = .ok proceedable ∧
        if proceedable then ∃ best, ahead = .ok best ∧ signal.table.indication best = aspect
        else aspect = .r := by
  unfold plainAnswer
  rw [defined]
  dsimp only
  rw [Fallible.bind_eq_ok]
  constructor
  · rintro ⟨proceedable, own, rest⟩
    refine ⟨proceedable, own, ?_⟩
    cases proceedable with
    | true => exact Fallible.map_eq_ok.1 rest
    | false => exact (Except.ok.inj rest).symm
  · rintro ⟨proceedable, own, rest⟩
    refine ⟨proceedable, own, ?_⟩
    cases proceedable with
    | true => exact Fallible.map_eq_ok.2 rest
    | false => exact congrArg Except.ok (Eq.symm rest)

/-- The plain answer of a name, whatever the look-ahead, is made from one search ahead. -/
theorem exists_plainAnswer (network : SignalNetwork) (state : State) (steps : Nat)
    (name : String) :
    ∃ ahead, network.plain state steps name = network.plainAnswer state name ahead := by
  cases steps with
  | zero => exact ⟨_, rfl⟩
  | succ steps => exact ⟨_, rfl⟩

/-- Only a signal that may be passed answers anything but stop. -/
theorem proceedable_of_plain {steps : Nat} {name : String} {aspect : Aspect}
    (answered : network.plain state steps name = .ok aspect) (proceeds : aspect ≠ .r) :
    ∃ signal, network.signal? name = some signal ∧
      Signal.isProceedable signal.definition state = .ok true := by
  rcases exists_plainAnswer network state steps name with ⟨ahead, same⟩
  rw [same] at answered
  cases defined : network.signal? name with
  | none =>
    rw [plainAnswer, defined] at answered
    cases answered
    exact absurd rfl proceeds
  | some signal =>
    rcases (plainAnswer_eq_ok defined).1 answered with ⟨proceedable, own, rest⟩
    cases proceedable with
    | true => exact ⟨signal, rfl, own⟩
    | false => exact absurd rest proceeds

/-- A signal has an answer if it knows whether it may be passed and, should it be so, the
search ahead of it has a result. -/
theorem plainAnswer_succeeds_iff {name : String} {ahead : Except Missing Aspect} :
    Succeeds (network.plainAnswer state name ahead) ↔
      ∀ signal, network.signal? name = some signal →
        ∃ proceedable, Signal.isProceedable signal.definition state = .ok proceedable ∧
          (proceedable = true → Succeeds ahead) := by
  cases defined : network.signal? name with
  | none =>
    constructor
    · rintro _ signal ⟨⟩
    · intro _
      rw [plainAnswer, defined]
      exact Fallible.pure_succeeds Aspect.r
  | some signal =>
    constructor
    · rintro ⟨aspect, answered⟩ _ ⟨⟩
      rcases (plainAnswer_eq_ok defined).1 answered with ⟨proceedable, own, rest⟩
      refine ⟨proceedable, own, ?_⟩
      rintro rfl
      rcases rest with ⟨best, found, _⟩
      exact ⟨best, found⟩
    · intro known
      rcases known signal rfl with ⟨proceedable, own, found⟩
      cases proceedable with
      | true =>
        rcases found rfl with ⟨best, found⟩
        exact ⟨_, (plainAnswer_eq_ok defined).2 ⟨true, own, best, found, rfl⟩⟩
      | false => exact ⟨.r, (plainAnswer_eq_ok defined).2 ⟨false, own, rfl⟩⟩

/-- A signal that answers has been asked whether it may be passed. -/
theorem isProceedable_of_plain {steps : Nat} {name : String}
    (answered : Succeeds (network.plain state steps name)) {signal : Signal}
    (defined : network.signal? name = some signal) :
    Succeeds (Signal.isProceedable signal.definition state) := by
  rcases exists_plainAnswer network state steps name with ⟨ahead, same⟩
  rw [same, plainAnswer_succeeds_iff] at answered
  rcases answered signal defined with ⟨proceedable, own, _⟩
  exact ⟨proceedable, own⟩

theorem plainAnswer_succeeds {name : String} {ahead : Except Missing Aspect}
    (known : ∀ signal, network.signal? name = some signal →
      Succeeds (Signal.isProceedable signal.definition state))
    (found : Succeeds ahead) : Succeeds (network.plainAnswer state name ahead) := by
  refine plainAnswer_succeeds_iff.2 fun signal defined => ?_
  rcases known signal defined with ⟨proceedable, own⟩
  exact ⟨proceedable, own, fun _ => found⟩

/-- Every name has an answer where every signal knows whether it may be passed. -/
theorem plain_succeeds
    (known : ∀ name signal, network.signal? name = some signal →
      Succeeds (Signal.isProceedable signal.definition state)) (steps : Nat) (name : String) :
    Succeeds (network.plain state steps name) := by
  induction steps generalizing name with
  | zero => exact plainAnswer_succeeds (known name) (Fallible.pure_succeeds Aspect.r)
  | succ steps inductionHypothesis =>
    apply plainAnswer_succeeds (known name)
    apply Fallible.map_succeeds
    apply Fallible.mapM_succeeds
    intro next _
    exact inductionHypothesis next

end SignalNetwork

end SignalBox
