import SignalBox.Condition
import SignalBox.Proofs.Fallible

namespace SignalBox

/-!
# Surveying a condition

A survey asks every leaf, and gives the value of the condition where all of them answer.
So a successful survey says two things: each leaf has an answer, and the condition holds
or not as these answers decide.  Both directions are kept in `survey_eq_ok`, from which
everything else about successful surveys is read off.  A survey that fails has the fault of the
first leaf without answer, wherever that leaf stands.

A leaf that the root reaches through conjunctions only is one the condition cannot do
without.  These leaves are its `conjuncts`; alternatives and negations have none.
-/

namespace Condition

variable {α ε : Type}

/-! ## Induction over the parts of a condition -/

/-- Conditions are built from their parts, which stand in lists.  The hypothesis is given
for every part at once, so that no second induction over the list is needed. -/
@[elab_as_elim]
theorem induction {motive : Condition α → Prop} (leaf : ∀ value, motive (.leaf value))
    (all : ∀ parts, (∀ part, part ∈ parts → motive part) → motive (.all parts))
    (any : ∀ parts, (∀ part, part ∈ parts → motive part) → motive (.any parts))
    (not : ∀ part, motive part → motive (.not part)) : (tree : Condition α) → motive tree
  | .leaf value => leaf value
  | .all parts => all parts fun part _ => induction leaf all any not part
  | .any parts => any parts fun part _ => induction leaf all any not part
  | .not part => not part (induction leaf all any not part)

theorem holdsAll_eq (value : α → Bool) (parts : List (Condition α)) :
    holdsAll value parts = parts.all (holds value) := by
  induction parts with
  | nil => rfl
  | cons part rest inductionHypothesis => rw [holdsAll, inductionHypothesis, List.all_cons]

theorem holdsAny_eq (value : α → Bool) (parts : List (Condition α)) :
    holdsAny value parts = parts.any (holds value) := by
  induction parts with
  | nil => rfl
  | cons part rest inductionHypothesis => rw [holdsAny, inductionHypothesis, List.any_cons]

theorem leavesOf_eq (parts : List (Condition α)) : leavesOf parts = parts.flatMap leaves := by
  induction parts with
  | nil => rfl
  | cons part rest inductionHypothesis =>
    rw [leavesOf, inductionHypothesis, List.flatMap_cons]

theorem leavesOf_append (parts others : List (Condition α)) :
    leavesOf (parts ++ others) = leavesOf parts ++ leavesOf others := by
  rw [leavesOf_eq, leavesOf_eq, leavesOf_eq, List.flatMap_append]

theorem leaves_conjunction (parts : List (Condition α)) :
    (conjunction parts).leaves = leavesOf parts := by
  unfold conjunction
  split
  · exact (List.append_nil _).symm
  · rfl

theorem mem_leavesOf {leaf : α} {parts : List (Condition α)} :
    leaf ∈ leavesOf parts ↔ ∃ part, part ∈ parts ∧ leaf ∈ leaves part := by
  rw [leavesOf_eq, List.mem_flatMap]

theorem forall_mem_leavesOf {holds : α → Prop} {parts : List (Condition α)} :
    (∀ leaf ∈ leavesOf parts, holds leaf) ↔ ∀ part ∈ parts, ∀ leaf ∈ part.leaves, holds leaf := by
  rw [leavesOf_eq, List.forall_mem_flatMap]

/-! ## Evaluations of leaves that always answer -/

/-- A conjunction whose parts are asked in turn has the values of all of them. -/
theorem run_evaluateAll (ask : α → Id Bool) (parts : List (Condition α)) :
    (evaluateAll ask parts).run = parts.all fun part => (part.evaluate ask).run := by
  induction parts with
  | nil => rfl
  | cons part rest inductionHypothesis =>
    rw [evaluateAll, List.all_cons, ← inductionHypothesis, Id.run_bind]
    cases (part.evaluate ask).run <;> rfl

/-- A condition evaluates to its value. -/
theorem run_evaluate (ask : α → Id Bool) (tree : Condition α) :
    (tree.evaluate ask).run = tree.holds fun leaf => (ask leaf).run := by
  induction tree using induction with
  | leaf value => rfl
  | all parts inductionHypothesis =>
    rw [evaluate, run_evaluateAll, holds, holdsAll_eq]
    rw [Bool.eq_iff_iff, List.all_eq_true, List.all_eq_true]
    exact forall₂_congr fun part listed => by rw [inductionHypothesis part listed]
  | any parts inductionHypothesis =>
    rw [evaluate, holds, holdsAny_eq]
    induction parts with
    | nil => rfl
    | cons part rest following =>
      rw [List.forall_mem_cons] at inductionHypothesis
      rw [evaluateAny, List.any_cons, ← following inductionHypothesis.2,
        ← inductionHypothesis.1, Id.run_bind]
      cases (part.evaluate ask).run <;> rfl
  | not part inductionHypothesis =>
    rw [evaluate, holds, ← inductionHypothesis]
    rfl

/-! ## The leaves a condition cannot do without -/

mutual

/-- The leaves that a condition reaches from its root through conjunctions only. -/
def conjuncts : Condition α → List α
  | leaf condition => [condition]
  | all parts => conjunctsOf parts
  | any _ => []
  | not _ => []

/-- The conjuncts of several conditions from left to right. -/
def conjunctsOf : List (Condition α) → List α
  | [] => []
  | part :: rest => conjuncts part ++ conjunctsOf rest

end

theorem mem_conjunctsOf {leaf : α} {parts : List (Condition α)} :
    leaf ∈ conjunctsOf parts ↔ ∃ part, part ∈ parts ∧ leaf ∈ conjuncts part := by
  induction parts with
  | nil => simp [conjunctsOf]
  | cons part rest inductionHypothesis =>
    simp only [conjunctsOf, List.mem_append, inductionHypothesis, List.mem_cons,
      exists_eq_or_imp]

theorem conjuncts_subset_leaves (tree : Condition α) {leaf : α} (member : leaf ∈ tree.conjuncts) :
    leaf ∈ tree.leaves := by
  induction tree using induction with
  | leaf value => exact member
  | all parts inductionHypothesis =>
    rcases mem_conjunctsOf.1 member with ⟨part, listed, reached⟩
    exact mem_leavesOf.2 ⟨part, listed, inductionHypothesis part listed reached⟩
  | any parts inductionHypothesis => cases member
  | not part inductionHypothesis => cases member

/-- A condition that holds has each of its conjuncts hold, whatever stands elsewhere. -/
theorem holds_conjunct {value : α → Bool} {tree : Condition α} (satisfied : tree.holds value = true)
    {leaf : α} (member : leaf ∈ tree.conjuncts) : value leaf = true := by
  induction tree using induction with
  | leaf other =>
    rw [List.mem_singleton.1 member]
    exact satisfied
  | all parts inductionHypothesis =>
    rcases mem_conjunctsOf.1 member with ⟨part, listed, reached⟩
    rw [holds, holdsAll_eq, List.all_eq_true] at satisfied
    exact inductionHypothesis part listed (satisfied part listed) reached
  | any parts inductionHypothesis => cases member
  | not part inductionHypothesis => cases member

/-! ## Surveys that succeed -/

/-- The answers of leaves that may fail, with a failure read as no. -/
def answered (ask : α → Except ε Bool) (leaf : α) : Bool :=
  match ask leaf with
  | .ok answer => answer
  | .error _ => false

theorem answered_of_eq {ask : α → Except ε Bool} {leaf : α} {answer : Bool}
    (given : ask leaf = .ok answer) : answered ask leaf = answer := by
  rw [answered, given]

theorem ask_eq_answered {ask : α → Except ε Bool} {leaf : α} (given : Succeeds (ask leaf)) :
    ask leaf = .ok (answered ask leaf) := by
  rcases given with ⟨answer, same⟩
  rw [answered_of_eq same, same]

section Parts

variable {m : Type → Type} [Monad m] [LawfulMonad m] {ask : α → m Bool}

/-- The parts of a conjunction are surveyed one after another, and all of them. -/
theorem surveyAll_eq_mapM (parts : List (Condition α)) :
    surveyAll ask parts = (List.all · id) <$> parts.mapM (survey ask) := by
  induction parts with
  | nil => simp [surveyAll]
  | cons part rest inductionHypothesis => simp [surveyAll, inductionHypothesis]

theorem surveyAny_eq_mapM (parts : List (Condition α)) :
    surveyAny ask parts = (List.any · id) <$> parts.mapM (survey ask) := by
  induction parts with
  | nil => simp [surveyAny]
  | cons part rest inductionHypothesis => simp [surveyAny, inductionHypothesis]

end Parts

/-- Surveying parts, once each part is known to answer as its leaves decide. -/
private theorem mapM_survey_eq_ok {ask : α → Except ε Bool} {parts : List (Condition α)}
    (known : ∀ part, part ∈ parts → ∀ value, survey ask part = .ok value ↔
      (∀ leaf, leaf ∈ part.leaves → Succeeds (ask leaf)) ∧ part.holds (answered ask) = value)
    {values : List Bool} :
    parts.mapM (survey ask) = .ok values ↔
      (∀ leaf, leaf ∈ leavesOf parts → Succeeds (ask leaf)) ∧
        parts.map (holds (answered ask)) = values := by
  constructor
  · intro surveyed
    constructor
    · intro leaf member
      rcases mem_leavesOf.1 member with ⟨part, listed, inside⟩
      rcases Fallible.mem_of_mapM surveyed listed with ⟨value, _, same⟩
      exact ((known part listed value).1 same).1 leaf inside
    · refine (Fallible.eq_map_of_mapM surveyed fun part listed value same => ?_).symm
      exact ((known part listed value).1 same).2.symm
  · rintro ⟨given, same⟩
    rw [← same]
    apply Fallible.mapM_eq_ok_map
    intro part listed
    refine (known part listed _).2 ⟨fun leaf inside => ?_, rfl⟩
    exact given leaf (mem_leavesOf.2 ⟨part, listed, inside⟩)

/-- A survey succeeds exactly where every leaf answers, and then gives the value of the
condition under these answers. -/
theorem survey_eq_ok {ask : α → Except ε Bool} {tree : Condition α} {value : Bool} :
    tree.survey ask = .ok value ↔
      (∀ leaf, leaf ∈ tree.leaves → Succeeds (ask leaf)) ∧ tree.holds (answered ask) = value := by
  induction tree using induction generalizing value with
  | leaf condition =>
    simp only [survey, leaves, holds, List.mem_singleton, forall_eq]
    constructor
    · intro given
      exact ⟨⟨value, given⟩, answered_of_eq given⟩
    · rintro ⟨given, same⟩
      rw [ask_eq_answered given, same]
  | all parts inductionHypothesis =>
    have parted := @mapM_survey_eq_ok _ _ ask parts fun part listed value =>
      inductionHypothesis part listed
    rw [survey, surveyAll_eq_mapM]
    refine Fallible.map_eq_ok.trans ?_
    simp only [leaves, holds, holdsAll_eq, parted]
    constructor
    · rintro ⟨values, ⟨given, same⟩, conjunction⟩
      rw [← same, List.all_map] at conjunction
      exact ⟨given, conjunction⟩
    · rintro ⟨given, conjunction⟩
      refine ⟨_, ⟨given, rfl⟩, ?_⟩
      rw [List.all_map]
      exact conjunction
  | any parts inductionHypothesis =>
    have parted := @mapM_survey_eq_ok _ _ ask parts fun part listed value =>
      inductionHypothesis part listed
    rw [survey, surveyAny_eq_mapM]
    refine Fallible.map_eq_ok.trans ?_
    simp only [leaves, holds, holdsAny_eq, parted]
    constructor
    · rintro ⟨values, ⟨given, same⟩, disjunction⟩
      rw [← same, List.any_map] at disjunction
      exact ⟨given, disjunction⟩
    · rintro ⟨given, disjunction⟩
      refine ⟨_, ⟨given, rfl⟩, ?_⟩
      rw [List.any_map]
      exact disjunction
  | not part inductionHypothesis =>
    simp only [survey, leaves, holds, Fallible.bind_eq_ok, inductionHypothesis]
    constructor
    · rintro ⟨inner, ⟨given, same⟩, negation⟩
      cases negation
      exact ⟨given, congrArg Bool.not same⟩
    · rintro ⟨given, negation⟩
      refine ⟨_, ⟨given, rfl⟩, ?_⟩
      rw [negation]
      rfl

/-- A survey fails where some leaf does, with the fault of the first one in order. -/
theorem survey_eq_error {ask : α → Except ε Bool} {tree : Condition α} {fault : ε} :
    tree.survey ask = .error fault ↔ FailsFirst ask fault tree.leaves := by
  induction tree using induction generalizing fault with
  | leaf condition => rw [survey, leaves, FailsFirst.singleton_iff]
  | all parts inductionHypothesis =>
    rw [survey, surveyAll_eq_mapM, leaves, leavesOf_eq]
    refine Fallible.map_eq_error.trans (FailsFirst.mapM_eq_error.trans ?_)
    exact FailsFirst.flatMap_iff fun part listed _ => inductionHypothesis part listed
  | any parts inductionHypothesis =>
    rw [survey, surveyAny_eq_mapM, leaves, leavesOf_eq]
    refine Fallible.map_eq_error.trans (FailsFirst.mapM_eq_error.trans ?_)
    exact FailsFirst.flatMap_iff fun part listed _ => inductionHypothesis part listed
  | not part inductionHypothesis =>
    rw [survey, leaves, ← inductionHypothesis]
    exact @Fallible.map_eq_error _ _ _ (part.survey ask) Bool.not fault

theorem survey_succeeds {ask : α → Except ε Bool} {tree : Condition α}
    (given : ∀ leaf, leaf ∈ tree.leaves → Succeeds (ask leaf)) : Succeeds (tree.survey ask) :=
  ⟨tree.holds (answered ask), survey_eq_ok.2 ⟨given, rfl⟩⟩

theorem ask_succeeds_of_survey {ask : α → Except ε Bool} {tree : Condition α}
    (surveyed : Succeeds (tree.survey ask)) {leaf : α} (member : leaf ∈ tree.leaves) :
    Succeeds (ask leaf) := by
  rcases surveyed with ⟨value, same⟩
  exact (survey_eq_ok.1 same).1 leaf member

/-- A survey that finds a condition to hold finds each of its conjuncts to hold. -/
theorem ask_conjunct_of_survey {ask : α → Except ε Bool} {tree : Condition α}
    (surveyed : tree.survey ask = .ok true) {leaf : α} (member : leaf ∈ tree.conjuncts) :
    ask leaf = .ok true := by
  rcases survey_eq_ok.1 surveyed with ⟨given, satisfied⟩
  have answers := ask_eq_answered (given leaf (conjuncts_subset_leaves tree member))
  rw [holds_conjunct satisfied member] at answers
  exact answers

end Condition

end SignalBox
