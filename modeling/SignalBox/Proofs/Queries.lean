import SignalBox.Proofs.LookAhead
import SignalBox.Proofs.ShortestWalks

namespace SignalBox

/-!
# Queries for several signals

A query asks for its names one after the other, and what it finds on the way for one name is
kept for those behind it.  Neither the order of the names nor what else is asked for can be
told from its answers: every name has the answer that it is given afresh, by a recursion
that keeps nothing.

A query fails as a whole, and with the fault of the first name that has no answer.  So the
order of the names decides which fault is told, though not whether there is one; and names
that are left out of a query that succeeds leave the others their answers.  To ask for the
signals directly ahead as well may fail where the name alone is answered, since the full
look-ahead of a signal ahead leads one step further.
-/

namespace SignalNetwork

variable {network : SignalNetwork} {state : State} {names others : List String}
  {answers : Table String Aspect}

/-- The answers of a query: one for each distinct name, and the one that the name is given
afresh. -/
structure AnswersAfresh (network : SignalNetwork) (state : State) (names : List String)
    (answers : Table String Aspect) : Prop where
  keys : answers.keys.Perm (Ascending.ofList names)
  values : ∀ name aspect, answers.get? name = some aspect ↔
    name ∈ names ∧ network.plain state network.graph.maxDepth name = .ok aspect

/-- Two queries that succeed together, and with the same answers. -/
structure AnswersAlike (first second : Except Missing (Table String Aspect)) : Prop where
  together : Succeeds first ↔ Succeeds second
  same : ∀ answers others, first = .ok answers → second = .ok others →
    ∀ name, answers.get? name = others.get? name

/-- A query fails with the fault of the first name that has no answer. -/
theorem aspects_eq_error {missing : Missing} :
    network.aspects state names = .error missing ↔
      FailsFirst (network.plain state network.graph.maxDepth) missing names := by
  rw [aspects_eq, Fallible.map_eq_error, FailsFirst.mapM_eq_error]
  exact FailsFirst.map_iff

theorem answersAfresh_of_aspects (answered : network.aspects state names = .ok answers) :
    network.AnswersAfresh state names answers := by
  refine ⟨?_, fun name aspect => get?_of_aspects answered⟩
  refine (List.perm_ext_iff_of_nodup answers.nodup (Ascending.nodup_ofList names)).2 ?_
  intro name
  change name ∈ answers.keys ↔ _
  rw [Table.mem_keys_iff_get?, Ascending.mem_ofList]
  constructor
  · rintro ⟨aspect, shown⟩
    exact ((get?_of_aspects answered).1 shown).1
  · intro asked
    rcases aspects_succeeds.1 ⟨answers, answered⟩ name asked with ⟨aspect, known⟩
    exact ⟨aspect, (get?_of_aspects answered).2 ⟨asked, known⟩⟩

/-- Names can be left out of a query, put in another order and repeated. -/
theorem aspects_of_subset (answered : network.aspects state names = .ok answers)
    (among : others ⊆ names) :
    ∃ fewer, network.aspects state others = .ok fewer ∧
      ∀ name, name ∈ others → fewer.get? name = answers.get? name := by
  have known := aspects_succeeds.1 ⟨answers, answered⟩
  rcases aspects_succeeds.2 fun name asked => known name (among asked) with ⟨fewer, found⟩
  refine ⟨fewer, found, fun name asked => Option.ext fun aspect => ?_⟩
  rw [get?_of_aspects found, get?_of_aspects answered]
  exact ⟨fun shown => ⟨among shown.1, shown.2⟩, fun shown => ⟨asked, shown.2⟩⟩

/-- Queries for the same names are alike. -/
theorem answersAlike_of_mem_iff (same : ∀ name, name ∈ names ↔ name ∈ others) :
    AnswersAlike (network.aspects state names) (network.aspects state others) := by
  constructor
  · rw [aspects_succeeds, aspects_succeeds]
    simp only [same]
  · intro answers otherAnswers answered otherAnswered name
    refine Option.ext fun aspect => ?_
    rw [get?_of_aspects answered, get?_of_aspects otherAnswered, same]

/-- The names of a query together with the targets of their records at depth one. -/
def withTargets (network : SignalNetwork) (names : List String) : List String :=
  names.flatMap fun name =>
    name :: (network.graph.successors name 1).map NextSignal.target

theorem mem_withTargets {name : String} :
    name ∈ network.withTargets names ↔
      name ∈ names ∨
        ∃ first, first ∈ names ∧ SignalGraph.Records (network.graph.successors first 1) name := by
  simp only [withTargets, List.mem_flatMap, List.mem_cons, SignalGraph.Records]
  constructor
  · rintro ⟨first, asked, rfl | ahead⟩
    · exact .inl asked
    · exact .inr ⟨first, asked, ahead⟩
  · rintro (asked | ⟨first, asked, ahead⟩)
    · exact ⟨name, asked, .inl rfl⟩
    · exact ⟨first, asked, .inr ahead⟩

theorem aspectsWithNext_eq_aspects (network : SignalNetwork) (state : State)
    (names : List String) :
    network.aspectsWithNext state names = network.aspects state (network.withTargets names) := by
  simp only [withTargets, SignalGraph.targets_successors_one]
  rfl

/-- A query succeeds if each of its names has an answer when it is found afresh, and fails as
the first one that has none.  If it succeeds, its answers are these, whatever else is asked
for and in whatever order; and a query that includes the signals directly ahead is the query
for the names and the targets of their records at depth one. -/
theorem queries_answer_afresh (network : SignalNetwork) (state : State) (names : List String) :
    (Succeeds (network.aspects state names) ↔
      ∀ name, name ∈ names → Succeeds (network.plain state network.graph.maxDepth name)) ∧
    (∀ missing, network.aspects state names = .error missing ↔
      FailsFirst (network.plain state network.graph.maxDepth) missing names) ∧
    (∀ answers, network.aspects state names = .ok answers →
      network.AnswersAfresh state names answers ∧
      ∀ others, others ⊆ names → ∃ fewer, network.aspects state others = .ok fewer ∧
        ∀ name, name ∈ others → fewer.get? name = answers.get? name) ∧
    network.aspectsWithNext state names = network.aspects state (network.withTargets names) ∧
    ∀ asked, (∀ name, name ∈ asked ↔ name ∈ names ∨
        ∃ first, first ∈ names ∧ SignalGraph.Records (network.graph.successors first 1) name) →
      AnswersAlike (network.aspectsWithNext state names) (network.aspects state asked) := by
  refine ⟨aspects_succeeds, fun missing => aspects_eq_error, fun answers answered => ⟨?_, ?_⟩,
    aspectsWithNext_eq_aspects network state names, fun asked same => ?_⟩
  · exact answersAfresh_of_aspects answered
  · exact fun others among => aspects_of_subset answered among
  · rw [aspectsWithNext_eq_aspects]
    exact answersAlike_of_mem_iff fun name => mem_withTargets.trans (same name).symm

/-- A state of the loop in which nothing is known of the third track circuit. -/
def blindLoopState : State where
  now := default
  tracks := Table.ofList ([1, 2].map fun id => (id, {}))

/-- With one step of look-ahead the first signal does not need the third track circuit.  The
second one does, so there is no answer for the first together with the signal ahead of it. -/
theorem loop_queries_answer_afresh :
    (∃ answers, (loop 1).aspects blindLoopState ["Z", "A", "Z"] = .ok answers ∧
      answers.keys.Perm ["A", "Z"] ∧ answers.get? "A" = some .g ∧ answers.get? "Z" = some .r) ∧
    (loop 1).aspectsWithNext blindLoopState ["A"] = .error (.state .trackCircuit 3) := by
  have unknown : (loop 1).plain blindLoopState 1 "Z" = .ok .r := by rfl
  have first : (loop 1).plain blindLoopState 1 "A" = .ok .g := by rfl
  have second : (loop 1).plain blindLoopState 1 "B" = .error (.state .trackCircuit 3) := by rfl
  constructor
  · rcases queries_answer_afresh (loop 1) blindLoopState ["Z", "A", "Z"] with
      ⟨succeeds, _, afresh, _⟩
    have known : ∀ name, name ∈ ["Z", "A", "Z"] →
        Succeeds ((loop 1).plain blindLoopState (loop 1).graph.maxDepth name) := by
      intro name asked
      simp only [List.mem_cons, List.not_mem_nil, or_false] at asked
      rcases asked with rfl | rfl | rfl
      · exact ⟨.r, unknown⟩
      · exact ⟨.g, first⟩
      · exact ⟨.r, unknown⟩
    rcases succeeds.2 known with ⟨answers, answered⟩
    rcases (afresh answers answered).1 with ⟨keys, values⟩
    exact ⟨answers, answered, keys, (values "A" .g).2 ⟨by decide, first⟩,
      (values "Z" .r).2 ⟨by decide, unknown⟩⟩
  · rcases queries_answer_afresh (loop 1) blindLoopState ["A"] with ⟨_, _, _, ahead, _⟩
    rcases queries_answer_afresh (loop 1) blindLoopState ["A", "B"] with ⟨_, fails, _⟩
    rw [ahead]
    exact (fails _).2 (.later ⟨.g, first⟩ (.here second))

end SignalNetwork

end SignalBox
