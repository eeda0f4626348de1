import SignalBox.Proofs.Survey

namespace SignalBox

/-!
# The leaves that are asked

A survey and an evaluation give the same value where both give one.  They differ in what they
ask, and that can only be said of leaves that note when they are asked.  `noting` and `noted`
answer as before and keep such notes; the notes of a survey outlast its failure.

A survey asks the leaves from left to right up to the first one that fails, whichever
connectives it passes on the way.  An evaluation stops earlier and skips leaves in between, so
what it asks depends on the answers.  `RestsOn` says what is left to say of it: it goes by the
answers to its own questions and by nothing else.
-/

namespace Condition

variable {α β γ ε : Type}

/-- Ask a leaf and note that it was asked, whether or not it answers. -/
def noting (ask : α → Except ε Bool) (value : α) : ExceptT ε (StateM (List α)) Bool :=
  ExceptT.mk fun asked => (ask value, asked ++ [value])

/-- Ask a leaf that always answers and note that it was asked. -/
def noted (answer : α → Bool) (value : α) : StateM (List α) Bool := fun asked =>
  (answer value, asked ++ [value])

/-- What a survey gives, and the leaves it asks for that in the order in which it asks them. -/
def surveyed (ask : α → Except ε Bool) (tree : Condition α) : Except ε Bool × List α :=
  (tree.survey (noting ask)).run.run []

/-- What an evaluation gives, and the leaves it asks for that in the order in which it asks
them. -/
def evaluated (answer : α → Bool) (tree : Condition α) : Bool × List α :=
  (tree.evaluate (noted answer)).run []

/-! ## Surveys -/

section Surveys

variable {ask : α → Except ε Bool} {values others : List α} {fault : ε}

/-- The leaves up to and including the first one that fails. -/
def untilFailure (ask : α → Except ε Bool) : List α → List α
  | [] => []
  | value :: rest => value :: if (ask value).isOk then untilFailure ask rest else []

theorem untilFailure_append_of_succeeds (passed : ∀ value ∈ values, Succeeds (ask value)) :
    untilFailure ask (values ++ others) = values ++ untilFailure ask others := by
  induction values with
  | nil => rfl
  | cons value rest inductionHypothesis =>
    rw [List.forall_mem_cons] at passed
    rw [List.cons_append, untilFailure, if_pos (Fallible.isOk_iff.2 passed.1),
      inductionHypothesis passed.2, List.cons_append]

theorem untilFailure_of_succeeds (passed : ∀ value ∈ values, Succeeds (ask value)) :
    untilFailure ask values = values := by
  have whole : untilFailure ask (values ++ []) = values ++ untilFailure ask [] :=
    untilFailure_append_of_succeeds passed
  rwa [List.append_nil, untilFailure, List.append_nil] at whole

theorem untilFailure_append_of_fails (fails : FailsFirst ask fault values) :
    untilFailure ask (values ++ others) = untilFailure ask values := by
  induction fails with
  | @here value rest failed =>
    rw [List.cons_append, untilFailure, untilFailure, failed]
    rfl
  | @later value rest passed _ inductionHypothesis =>
    rw [List.cons_append, untilFailure, untilFailure, inductionHypothesis]

theorem untilFailure_of_split {value : α} (passed : ∀ earlier ∈ values, Succeeds (ask earlier))
    (failed : ask value = .error fault) :
    untilFailure ask (values ++ value :: others) = values ++ [value] := by
  rw [untilFailure_append_of_succeeds passed, untilFailure, failed]
  rfl

/-- A computation with notes goes on with what its first step has noted, unless that fails. -/
theorem run_bind_noting (first : ExceptT ε (StateM (List α)) β)
    (next : β → ExceptT ε (StateM (List α)) γ) (before : List α) :
    (first >>= next).run.run before =
      match first.run.run before with
      | (.ok value, asked) => (next value).run.run asked
      | (.error fault, asked) => (.error fault, asked) := by
  rw [ExceptT.run_bind, StateT.run_bind]
  rcases first.run.run before with ⟨result, asked⟩
  cases result with
  | ok value => rfl
  | error fault => rfl

/-- Conditions one after another, once each of them is known to ask its own leaves up to the
first failure. -/
private theorem run_mapM_survey {parts : List (Condition α)}
    (known : ∀ part, part ∈ parts → ∀ before, (part.survey (noting ask)).run.run before =
      (part.survey ask, before ++ untilFailure ask part.leaves)) (before : List α) :
    (parts.mapM (survey (noting ask))).run.run before =
      (parts.mapM (survey ask), before ++ untilFailure ask (leavesOf parts)) := by
  induction parts generalizing before with
  | nil =>
    rw [leavesOf, untilFailure, List.append_nil]
    rfl
  | cons part rest inductionHypothesis =>
    rw [List.forall_mem_cons] at known
    rw [List.mapM_cons, List.mapM_cons, run_bind_noting, known.1, leavesOf]
    cases result : part.survey ask with
    | error fault =>
      -- The failure ends the survey, so no leaf of the parts behind is asked.
      rw [untilFailure_append_of_fails (survey_eq_error.1 result)]
      rfl
    | ok value =>
      -- All leaves of the part have been asked, and the parts behind go on from there.
      have passed := (survey_eq_ok.1 result).1
      rw [untilFailure_append_of_succeeds passed, untilFailure_of_succeeds passed,
        ← List.append_assoc]
      dsimp only
      rw [run_bind_noting, inductionHypothesis known.2]
      cases rest.mapM (survey ask) with
      | ok values => rfl
      | error fault => rfl

/-- A survey with notes gives what it gives without them, and notes the leaves up to the first
one that fails. -/
theorem run_survey_noting (ask : α → Except ε Bool) (tree : Condition α) (before : List α) :
    (tree.survey (noting ask)).run.run before =
      (tree.survey ask, before ++ untilFailure ask tree.leaves) := by
  induction tree using induction generalizing before with
  | leaf value =>
    rw [leaves, untilFailure, untilFailure, ite_self]
    rfl
  | all parts inductionHypothesis =>
    rw [survey, survey, surveyAll_eq_mapM, surveyAll_eq_mapM, ExceptT.run_map, StateT.run_map,
      run_mapM_survey inductionHypothesis]
    rfl
  | any parts inductionHypothesis =>
    rw [survey, survey, surveyAny_eq_mapM, surveyAny_eq_mapM, ExceptT.run_map, StateT.run_map,
      run_mapM_survey inductionHypothesis]
    rfl
  | not part inductionHypothesis =>
    rw [survey, survey, run_bind_noting, inductionHypothesis]
    cases part.survey ask with
    | ok value => rfl
    | error fault => rfl

theorem surveyed_eq (ask : α → Except ε Bool) (tree : Condition α) :
    tree.surveyed ask = (tree.survey ask, untilFailure ask tree.leaves) :=
  run_survey_noting ask tree []

end Surveys

/-! ## Evaluations -/

section Evaluations

variable {answer : α → Bool} {values others : List α}

/-- With these answers the computation gives a result, and asks some of the values in their
order for it.  With other answers that agree on those it asks, it asks and gives the same. -/
def RestsOn (answer : α → Bool) (values : List α)
    (computation : (α → Bool) → StateM (List α) β) (result : β) : Prop :=
  ∃ asked : List α, asked.Sublist values ∧
    ∀ other : α → Bool, (∀ value ∈ asked, other value = answer value) → ∀ before,
      (computation other).run before = (result, before ++ asked)

namespace RestsOn

theorem pure (result : β) : RestsOn answer values (fun _ => Pure.pure result) result := by
  refine ⟨[], List.nil_sublist values, fun other _ before => ?_⟩
  rw [List.append_nil]
  rfl

theorem bind {first : (α → Bool) → StateM (List α) β} {next : (α → Bool) → β → StateM (List α) γ}
    {found : β} {result : γ} (rests : RestsOn answer values first found)
    (continued : RestsOn answer others (fun other => next other found) result) :
    RestsOn answer (values ++ others) (fun other => first other >>= next other) result := by
  rcases rests with ⟨asked, within, same⟩
  rcases continued with ⟨later, behind, continued⟩
  refine ⟨asked ++ later, within.append behind, fun other agree before => ?_⟩
  rw [List.forall_mem_append] at agree
  rw [StateT.run_bind, same other agree.1, ← List.append_assoc]
  exact continued other agree.2 (before ++ asked)

theorem noted (value : α) :
    RestsOn answer [value] (fun other => Condition.noted other value) (answer value) := by
  refine ⟨[value], List.Sublist.refl _, fun other same before => ?_⟩
  rw [← same value List.mem_cons_self]
  rfl

end RestsOn

/-- An evaluation rests on the answers of some of the leaves in their order. -/
theorem evaluate_restsOn (answer : α → Bool) (tree : Condition α) :
    RestsOn answer tree.leaves (fun other => tree.evaluate (noted other)) (tree.holds answer) := by
  induction tree using induction with
  | leaf value => exact .noted value
  | all parts inductionHypothesis =>
    simp only [leaves, holds, evaluate]
    induction parts with
    | nil => exact .pure true
    | cons part rest following =>
      rw [List.forall_mem_cons] at inductionHypothesis
      rw [holdsAll]
      -- What is behind the part is asked only where the part leaves the value open.
      apply inductionHypothesis.1.bind
      cases part.holds answer with
      | true => exact following inductionHypothesis.2
      | false => exact .pure false
  | any parts inductionHypothesis =>
    simp only [leaves, holds, evaluate]
    induction parts with
    | nil => exact .pure false
    | cons part rest following =>
      rw [List.forall_mem_cons] at inductionHypothesis
      rw [holdsAny]
      apply inductionHypothesis.1.bind
      cases part.holds answer with
      | true => exact .pure true
      | false => exact following inductionHypothesis.2
  | not part inductionHypothesis =>
    rw [← List.append_nil (leaves (.not part))]
    exact inductionHypothesis.bind (.pure (!part.holds answer))

theorem evaluated_fst (answer : α → Bool) (tree : Condition α) :
    (tree.evaluated answer).1 = tree.holds answer := by
  rcases evaluate_restsOn answer tree with ⟨asked, _, same⟩
  exact congrArg Prod.fst (same answer (fun _ _ => rfl) [])

theorem evaluated_snd_sublist (answer : α → Bool) (tree : Condition α) :
    (tree.evaluated answer).2.Sublist tree.leaves := by
  rcases evaluate_restsOn answer tree with ⟨asked, within, same⟩
  rw [evaluated, same answer (fun _ _ => rfl) [], List.nil_append]
  exact within

theorem evaluated_congr {answer other : α → Bool} {tree : Condition α}
    (agree : ∀ value ∈ (tree.evaluated answer).2, other value = answer value) :
    tree.evaluated other = tree.evaluated answer := by
  rcases evaluate_restsOn answer tree with ⟨asked, _, same⟩
  rw [evaluated, same answer (fun _ _ => rfl) [], List.nil_append] at agree
  exact (same other agree []).trans (same answer (fun _ _ => rfl) []).symm

end Evaluations

/-- A survey asks the leaves in order, up to and including the first one that fails, and gives
the fault of that one.  Where none fails it asks all of them and gives what an evaluation with
their answers gives.  The evaluation asks some of the leaves in their order, and whatever the
others would answer, it asks and gives the same. -/
theorem surveys_ask_up_to_the_first_failure (tree : Condition α) :
    (∀ ask : α → Except ε Bool, (tree.surveyed ask).1 = tree.survey ask) ∧
      (∀ (ask : α → Except ε Bool) (before : List α) (value : α) (after : List α) (fault : ε),
        tree.leaves = before ++ value :: after →
        (∀ earlier ∈ before, Succeeds (ask earlier)) → ask value = .error fault →
        tree.surveyed ask = (.error fault, before ++ [value])) ∧
      (∀ (ask : α → Except ε Bool) (answer : α → Bool),
        (∀ value ∈ tree.leaves, ask value = .ok (answer value)) →
        tree.surveyed ask = (.ok (tree.evaluate (m := Id) answer).run, tree.leaves)) ∧
      ∀ answer : α → Bool, (tree.evaluated answer).1 = (tree.evaluate (m := Id) answer).run ∧
        (tree.evaluated answer).2.Sublist tree.leaves ∧
        ∀ other : α → Bool, (∀ value ∈ (tree.evaluated answer).2, other value = answer value) →
          tree.evaluated other = tree.evaluated answer := by
  refine ⟨fun ask => congrArg Prod.fst (surveyed_eq ask tree), ?_, ?_, fun answer => ?_⟩
  · intro ask before value after fault split passed failed
    have fails : FailsFirst ask fault tree.leaves :=
      FailsFirst.iff_exists.2 ⟨before, value, after, split, passed, failed⟩
    rw [surveyed_eq, survey_eq_error.2 fails, split, untilFailure_of_split passed failed]
  · intro ask answer answers
    have passed : ∀ value ∈ tree.leaves, Succeeds (ask value) := fun value listed =>
      ⟨answer value, answers value listed⟩
    have agreed : tree.evaluated (answered ask) = tree.evaluated answer :=
      evaluated_congr fun value noted =>
        answered_of_eq (answers value ((evaluated_snd_sublist answer tree).subset noted))
    have sameValue : tree.holds (answered ask) = tree.holds answer := by
      rw [← evaluated_fst, ← evaluated_fst, agreed]
    rw [surveyed_eq, survey_eq_ok.2 ⟨passed, rfl⟩, untilFailure_of_succeeds passed, sameValue,
      run_evaluate]
    rfl
  · rw [evaluated_fst, run_evaluate]
    exact ⟨rfl, evaluated_snd_sublist answer tree, fun _ => evaluated_congr⟩

/-- A condition with leaves under each of the connectives. -/
def scattered : Condition Nat :=
  .any [.all [.leaf 1, .leaf 2], .not (.any [.leaf 3, .leaf 4]), .leaf 5]

/-- All leaves but the first one hold. -/
def isBehindFirst (value : Nat) : Bool :=
  value != 1

/-- The same, where the fourth leaf cannot answer. -/
def askBehindFirst (value : Nat) : Except String Bool :=
  if value = 4 then .error "nothing is known of 4" else .ok (isBehindFirst value)

/-- The fourth leaf keeps a survey from asking the fifth one.  An evaluation passes over the
second and the fourth one, so it does the same where these do not hold. -/
theorem scattered_leaves_are_asked :
    scattered.leaves = [1, 2, 3] ++ 4 :: [5] ∧
      (∀ earlier ∈ [1, 2, 3], Succeeds (askBehindFirst earlier)) ∧
      askBehindFirst 4 = .error "nothing is known of 4" ∧
      scattered.surveyed askBehindFirst = (.error "nothing is known of 4", [1, 2, 3, 4]) ∧
      scattered.surveyed (fun value => (.ok (isBehindFirst value) : Except String Bool)) =
        (.ok true, [1, 2, 3, 4, 5]) ∧
      scattered.evaluated isBehindFirst = (true, [1, 3, 5]) ∧
      scattered.evaluated (fun value => value == 3 || value == 5) = (true, [1, 3, 5]) := by
  have split : scattered.leaves = [1, 2, 3] ++ 4 :: [5] := by decide
  have passed : ∀ earlier ∈ [1, 2, 3], Succeeds (askBehindFirst earlier) := by decide
  have asked : scattered.evaluated isBehindFirst = (true, [1, 3, 5]) := by decide
  rcases @surveys_ask_up_to_the_first_failure Nat String scattered with ⟨_, fails, answers, asks⟩
  refine ⟨split, passed, rfl, fails _ _ _ _ _ split passed rfl, ?_, asked, ?_⟩
  · exact answers _ isBehindFirst fun _ _ => rfl
  · rw [← asked]
    apply (asks isBehindFirst).2.2
    rw [asked]
    decide

end Condition

end SignalBox
