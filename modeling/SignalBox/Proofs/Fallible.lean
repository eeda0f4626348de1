namespace SignalBox

/-!
# Computations that may fail

A sequence of fallible steps succeeds exactly when each of its steps does on what the
steps before it gave.  The lemmas below say so for one step after another and for the
traversals of a list.  Which fault is the answer where several steps fail is a matter of the
definitions that are run; `FailsFirst` is for those that stop at the first.
-/

/-- The computation gives a result. -/
def Succeeds {ε α : Type} (result : Except ε α) : Prop :=
  ∃ value, result = .ok value

namespace Fallible

variable {α β ε : Type}

theorem isOk_iff {result : Except ε α} : result.isOk = true ↔ Succeeds result := by
  cases result with
  | error fault => simp [Except.isOk, Except.toBool, Succeeds]
  | ok value => simp [Except.isOk, Except.toBool, Succeeds]

instance (result : Except ε α) : Decidable (Succeeds result) :=
  decidable_of_iff _ isOk_iff

/-- What a check finds of the result shows that there is one. -/
theorem exists_of_any {result : Except ε α} {check : α → Bool}
    (passed : result.toOption.any check = true) :
    ∃ value, result = .ok value ∧ check value = true := by
  cases result with
  | error fault => cases passed
  | ok value => exact ⟨value, rfl, passed⟩

theorem bind_eq_ok {first : Except ε α} {next : α → Except ε β} {value : β} :
    first >>= next = .ok value ↔ ∃ found, first = .ok found ∧ next found = .ok value := by
  cases first with
  | error fault =>
    constructor
    · intro impossible
      cases impossible
    · rintro ⟨found, impossible, _⟩
      cases impossible
  | ok found =>
    constructor
    · intro result
      exact ⟨found, rfl, result⟩
    · rintro ⟨other, same, result⟩
      cases same
      exact result

theorem bind_eq_error {first : Except ε α} {next : α → Except ε β} {fault : ε} :
    first >>= next = .error fault ↔
      first = .error fault ∨ ∃ found, first = .ok found ∧ next found = .error fault := by
  cases first with
  | error other =>
    constructor
    · intro same
      cases same
      exact .inl rfl
    · rintro (same | ⟨found, impossible, _⟩)
      · cases same
        rfl
      · cases impossible
  | ok found =>
    constructor
    · intro failed
      exact .inr ⟨found, rfl, failed⟩
    · rintro (impossible | ⟨other, same, failed⟩)
      · cases impossible
      · cases same
        exact failed

theorem bind_of_eq_ok {first : Except ε α} {value : α} (found : first = .ok value)
    (next : α → Except ε β) : first >>= next = next value := by
  rw [found]
  rfl

/-- A check gives nothing but that it passed. -/
theorem check_bind_eq_ok {check : Except ε Unit} {next : Unit → Except ε β} {value : β} :
    check >>= next = .ok value ↔ check = .ok () ∧ next () = .ok value := by
  rw [bind_eq_ok]
  constructor
  · rintro ⟨found, passed, result⟩
    exact ⟨passed, result⟩
  · rintro ⟨passed, result⟩
    exact ⟨(), passed, result⟩

theorem map_eq_ok {result : Except ε α} {change : α → β} {value : β} :
    result.map change = .ok value ↔ ∃ found, result = .ok found ∧ change found = value := by
  cases result with
  | error fault => simp [Except.map]
  | ok found => simp [Except.map]

theorem map_eq_error {result : Except ε α} {change : α → β} {fault : ε} :
    result.map change = .error fault ↔ result = .error fault := by
  cases result with
  | error other => simp [Except.map]
  | ok found => simp [Except.map]

theorem mapError_eq_ok {φ : Type} {result : Except ε α} {change : ε → φ} {value : α} :
    result.mapError change = .ok value ↔ result = .ok value := by
  cases result with
  | error fault =>
    constructor
    · intro impossible
      cases impossible
    · intro impossible
      cases impossible
  | ok found =>
    constructor
    · intro same
      cases same
      rfl
    · intro same
      cases same
      rfl

theorem mapError_eq_error {φ : Type} {result : Except ε α} {change : ε → φ} {fault : φ} :
    result.mapError change = .error fault ↔ ∃ cause, result = .error cause ∧ change cause = fault := by
  cases result with
  | error cause =>
    constructor
    · intro same
      cases same
      exact ⟨cause, rfl, rfl⟩
    · rintro ⟨other, same, rfl⟩
      cases same
      rfl
  | ok found =>
    constructor
    · intro impossible
      cases impossible
    · rintro ⟨cause, impossible, _⟩
      cases impossible

theorem mapError_succeeds {φ : Type} {result : Except ε α} {change : ε → φ} :
    Succeeds (result.mapError change) ↔ Succeeds result := by
  simp only [Succeeds, mapError_eq_ok]

/-- What a failing step is followed by does not matter, so a sequence succeeds as soon as
its first step does and the rest succeeds on every result that the step can give. -/
theorem bind_succeeds {first : Except ε α} {next : α → Except ε β} (found : Succeeds first)
    (continued : ∀ value, first = .ok value → Succeeds (next value)) :
    Succeeds (first >>= next) := by
  rcases found with ⟨value, result⟩
  rcases continued value result with ⟨final, reached⟩
  exact ⟨final, bind_eq_ok.2 ⟨value, result, reached⟩⟩

theorem map_succeeds {result : Except ε α} {change : α → β} (found : Succeeds result) :
    Succeeds (result.map change) := by
  rcases found with ⟨value, same⟩
  exact ⟨change value, map_eq_ok.2 ⟨value, same, rfl⟩⟩

theorem pure_succeeds (value : α) : Succeeds (pure value : Except ε α) :=
  ⟨value, rfl⟩

/-- A last step that cannot fail does not matter. -/
theorem bind_pure_succeeds {first : Except ε α} {change : α → β} :
    Succeeds (first >>= fun value => pure (change value)) ↔ Succeeds first := by
  constructor
  · rintro ⟨final, reached⟩
    rcases bind_eq_ok.1 reached with ⟨value, result, _⟩
    exact ⟨value, result⟩
  · intro found
    exact bind_succeeds found fun value _ => pure_succeeds (change value)

theorem mapM_cons_eq_ok {step : α → Except ε β} {item : α} {rest : List α} {values : List β} :
    (item :: rest).mapM step = .ok values ↔
      ∃ value others, step item = .ok value ∧ rest.mapM step = .ok others ∧
        values = value :: others := by
  rw [List.mapM_cons, bind_eq_ok]
  refine exists_congr fun value => ?_
  constructor
  · rintro ⟨own, result⟩
    rcases bind_eq_ok.1 result with ⟨others, later, same⟩
    exact ⟨others, own, later, (Except.ok.inj same).symm⟩
  · rintro ⟨others, own, later, rfl⟩
    exact ⟨own, bind_eq_ok.2 ⟨others, later, rfl⟩⟩

/-- A traversal succeeds with the results of its items, and with nothing else. -/
theorem mapM_eq_ok {step : α → Except ε β} {items : List α} {values : List β} :
    items.mapM step = .ok values ↔ items.map step = values.map .ok := by
  induction items generalizing values with
  | nil =>
    cases values with
    | nil => simp [pure, Except.pure]
    | cons value rest => simp [pure, Except.pure]
  | cons item rest inductionHypothesis =>
    rw [mapM_cons_eq_ok]
    constructor
    · rintro ⟨value, others, first, later, rfl⟩
      rw [List.map_cons, List.map_cons, first, inductionHypothesis.1 later]
    · intro same
      cases values with
      | nil => cases same
      | cons value others =>
        rw [List.map_cons, List.map_cons, List.cons.injEq] at same
        exact ⟨value, others, same.1, inductionHypothesis.2 same.2, rfl⟩

/-- A traversal depends on what its step does with the items. -/
theorem mapM_congr {step other : α → Except ε β} {items : List α}
    (same : ∀ item, item ∈ items → step item = other item) :
    items.mapM step = items.mapM other := by
  induction items with
  | nil => rfl
  | cons item rest inductionHypothesis =>
    rw [List.mapM_cons, List.mapM_cons, same item List.mem_cons_self,
      inductionHypothesis fun other member => same other (List.mem_cons_of_mem item member)]

/-- Every item of a successful traversal gave one of the collected results. -/
theorem mem_of_mapM {step : α → Except ε β} {items : List α} {values : List β}
    (traversed : items.mapM step = .ok values) {item : α} (member : item ∈ items) :
    ∃ value, value ∈ values ∧ step item = .ok value := by
  have mapped : step item ∈ values.map Except.ok :=
    mapM_eq_ok.1 traversed ▸ List.mem_map_of_mem member
  rcases List.mem_map.1 mapped with ⟨value, listed, same⟩
  exact ⟨value, listed, same.symm⟩

/-- Every collected result of a traversal was given by one of its items. -/
theorem exists_of_mem_mapM {step : α → Except ε β} {items : List α} {values : List β}
    (traversed : items.mapM step = .ok values) {value : β} (listed : value ∈ values) :
    ∃ item, item ∈ items ∧ step item = .ok value := by
  have mapped : Except.ok value ∈ items.map step :=
    mapM_eq_ok.1 traversed ▸ List.mem_map_of_mem listed
  exact List.mem_map.1 mapped

/-- Some result of a traversal passes a test exactly if that of some item does. -/
theorem any_of_mapM {step : α → Except ε β} {items : List α} {values : List β}
    (traversed : items.mapM step = .ok values) {test : β → Bool} :
    values.any test = true ↔
      ∃ item, item ∈ items ∧ ∃ value, step item = .ok value ∧ test value = true := by
  rw [List.any_eq_true]
  constructor
  · rintro ⟨value, listed, passed⟩
    rcases exists_of_mem_mapM traversed listed with ⟨item, member, own⟩
    exact ⟨item, member, value, own, passed⟩
  · rintro ⟨item, member, value, own, passed⟩
    rcases mem_of_mapM traversed member with ⟨found, listed, same⟩
    cases own.symm.trans same
    exact ⟨value, listed, passed⟩

/-- All results of a traversal pass a test exactly if those of all items do. -/
theorem all_of_mapM {step : α → Except ε β} {items : List α} {values : List β}
    (traversed : items.mapM step = .ok values) {test : β → Bool} :
    values.all test = true ↔
      ∀ item, item ∈ items → ∀ value, step item = .ok value → test value = true := by
  rw [List.all_eq_true]
  constructor
  · intro passed item member value own
    rcases mem_of_mapM traversed member with ⟨found, listed, same⟩
    cases own.symm.trans same
    exact passed value listed
  · intro passed value listed
    rcases exists_of_mem_mapM traversed listed with ⟨item, member, own⟩
    exact passed item member value own

/-- Results stand in a relation wherever those of related items do. -/
theorem pairwise_of_mapM {step : α → Except ε β} {items : List α} {values : List β}
    {related : α → α → Prop} {relation : β → β → Prop}
    (traversed : items.mapM step = .ok values) (ordered : items.Pairwise related)
    (carried : ∀ item other value next, related item other → step item = .ok value →
      step other = .ok next → relation value next) : values.Pairwise relation := by
  have mapped : (items.map step).Pairwise fun first second =>
      ∀ value next, first = .ok value → second = .ok next → relation value next :=
    List.pairwise_map.2 (ordered.imp fun own value next => carried _ _ value next own)
  rw [mapM_eq_ok.1 traversed, List.pairwise_map] at mapped
  exact mapped.imp fun found => found _ _ rfl rfl

/-- Where the items have known results, a traversal collects exactly these. -/
theorem mapM_eq_ok_map {step : α → Except ε β} {result : α → β} {items : List α}
    (given : ∀ item, item ∈ items → step item = .ok (result item)) :
    items.mapM step = .ok (items.map result) := by
  rw [mapM_eq_ok, List.map_map]
  exact List.map_congr_left given

theorem eq_map_of_mapM {step : α → Except ε β} {result : α → β} {items : List α}
    {values : List β} (traversed : items.mapM step = .ok values)
    (given : ∀ item, item ∈ items → ∀ value, step item = .ok value → value = result item) :
    values = items.map result := by
  have known : items.mapM step = .ok (items.map result) := by
    apply mapM_eq_ok_map
    intro item member
    rcases mem_of_mapM traversed member with ⟨value, _, same⟩
    rw [same, given item member value same]
  rw [traversed] at known
  exact Except.ok.inj known

/-- What each result shows of its item is shown by the results of all items in their order. -/
theorem map_of_mapM {step : α → Except ε β} {shown : β → γ} {own : α → γ} {items : List α}
    {values : List β} (traversed : items.mapM step = .ok values)
    (carried : ∀ item value, step item = .ok value → shown value = own item) :
    values.map shown = items.map own := by
  induction items generalizing values with
  | nil =>
    cases Except.ok.inj traversed
    rfl
  | cons item rest inductionHypothesis =>
    rcases mapM_cons_eq_ok.1 traversed with ⟨value, others, first, later, rfl⟩
    rw [List.map_cons, List.map_cons, carried item value first, inductionHypothesis later]

theorem mapM_succeeds {step : α → Except ε β} {items : List α}
    (found : ∀ item, item ∈ items → Succeeds (step item)) : Succeeds (items.mapM step) := by
  induction items with
  | nil => exact pure_succeeds []
  | cons item rest inductionHypothesis =>
    rw [List.mapM_cons]
    apply bind_succeeds (found item List.mem_cons_self)
    intro value _
    apply bind_succeeds
      (inductionHypothesis fun other member => found other (List.mem_cons_of_mem item member))
    intro values _
    exact pure_succeeds (value :: values)

/-- Steps that succeed have results. -/
theorem exists_results [Inhabited β] {step : α → Except ε β} {items : List α}
    (found : ∀ item, item ∈ items → Succeeds (step item)) :
    ∃ result : α → β, ∀ item, item ∈ items → step item = .ok (result item) := by
  refine ⟨fun item => (step item).toOption.getD default, fun item member => ?_⟩
  rcases found item member with ⟨value, same⟩
  dsimp only
  rw [same]
  rfl

/-- A traversal of another list with the same members succeeds as well, and the results answer
the same to every question about some or all of them. -/
theorem mapM_of_mem_iff {step : α → Except ε β} {items others : List α} {values : List β}
    (same : ∀ item, item ∈ others ↔ item ∈ items) (traversed : items.mapM step = .ok values) :
    ∃ found, others.mapM step = .ok found ∧
      ∀ test : β → Bool, found.any test = values.any test ∧ found.all test = values.all test := by
  have each : ∀ item, item ∈ others → Succeeds (step item) := by
    intro item member
    rcases mem_of_mapM traversed ((same item).1 member) with ⟨value, _, own⟩
    exact ⟨value, own⟩
  rcases mapM_succeeds each with ⟨found, done⟩
  refine ⟨found, done, fun test => ⟨Bool.eq_iff_iff.2 ?_, Bool.eq_iff_iff.2 ?_⟩⟩
  · simp only [any_of_mapM done, any_of_mapM traversed, same]
  · simp only [all_of_mapM done, all_of_mapM traversed, same]

/-- A check of every item passes exactly when each single check does. -/
theorem forM_eq_ok {check : α → Except ε Unit} {items : List α} :
    items.forM check = .ok () ↔ ∀ item, item ∈ items → check item = .ok () := by
  induction items with
  | nil =>
    constructor
    · intro _ item member
      cases member
    · intro _
      rfl
  | cons item rest inductionHypothesis =>
    change (check item >>= fun _ => rest.forM check) = .ok () ↔ _
    rw [bind_eq_ok, List.forall_mem_cons]
    constructor
    · rintro ⟨found, first, later⟩
      exact ⟨first, inductionHypothesis.1 later⟩
    · rintro ⟨first, later⟩
      exact ⟨(), first, inductionHypothesis.2 later⟩

/-- What every successful step of a fold keeps holds of its result. -/
theorem foldlM_preserves (property : β → Prop) {step : β → α → Except ε β}
    (preserved : ∀ state item next, property state → step state item = .ok next → property next)
    {items : List α} {start last : β} (initial : property start)
    (folded : items.foldlM step start = .ok last) : property last := by
  induction items generalizing start with
  | nil =>
    cases folded
    exact initial
  | cons item rest inductionHypothesis =>
    rw [List.foldlM_cons] at folded
    rcases bind_eq_ok.1 folded with ⟨next, first, later⟩
    exact inductionHypothesis (preserved start item next initial first) later

end Fallible

/-! ## First failures -/

section FirstFailure

variable {α β γ ε : Type} {step : α → Except ε β} {fault : ε}

/-- Along a list the step fails, and the fault is that of the first item on which it does. -/
inductive FailsFirst (step : α → Except ε β) (fault : ε) : List α → Prop
  | here {item : α} {rest : List α} (failed : step item = .error fault) :
      FailsFirst step fault (item :: rest)
  | later {item : α} {rest : List α} (passed : Succeeds (step item))
      (behind : FailsFirst step fault rest) : FailsFirst step fault (item :: rest)

namespace FailsFirst

/-- Along a list a step succeeds everywhere, or fails somewhere first. -/
theorem succeeds_or_exists (step : α → Except ε β) (items : List α) :
    (∀ item, item ∈ items → Succeeds (step item)) ∨ ∃ fault, FailsFirst step fault items := by
  induction items with
  | nil => exact .inl nofun
  | cons item rest inductionHypothesis =>
    cases result : step item with
    | error fault => exact .inr ⟨fault, .here result⟩
    | ok value =>
      rcases inductionHypothesis with passed | ⟨fault, behind⟩
      · exact .inl (List.forall_mem_cons.2 ⟨⟨value, result⟩, passed⟩)
      · exact .inr ⟨fault, .later ⟨value, result⟩ behind⟩

theorem singleton_iff {item : α} : FailsFirst step fault [item] ↔ step item = .error fault := by
  refine ⟨?_, .here⟩
  rintro (failed | ⟨_, impossible⟩)
  · exact failed
  · cases impossible

theorem append_iff {first second : List α} :
    FailsFirst step fault (first ++ second) ↔
      FailsFirst step fault first ∨
        (∀ item, item ∈ first → Succeeds (step item)) ∧ FailsFirst step fault second := by
  induction first with
  | nil =>
    refine ⟨fun behind => .inr ⟨nofun, behind⟩, ?_⟩
    rintro (impossible | ⟨_, behind⟩)
    · cases impossible
    · exact behind
  | cons head rest inductionHypothesis =>
    rw [List.forall_mem_cons]
    constructor
    · rintro (failed | ⟨passed, behind⟩)
      · exact .inl (.here failed)
      · rcases inductionHypothesis.1 behind with inFirst | ⟨allPassed, inSecond⟩
        · exact .inl (.later passed inFirst)
        · exact .inr ⟨⟨passed, allPassed⟩, inSecond⟩
    · rintro ((failed | ⟨passed, behind⟩) | ⟨⟨passed, allPassed⟩, inSecond⟩)
      · exact .here failed
      · exact .later passed (inductionHypothesis.2 (.inl behind))
      · exact .later passed (inductionHypothesis.2 (.inr ⟨allPassed, inSecond⟩))

/-- The first failure has only successes before it. -/
theorem iff_exists {items : List α} :
    FailsFirst step fault items ↔ ∃ before item after, items = before ++ item :: after ∧
      (∀ earlier, earlier ∈ before → Succeeds (step earlier)) ∧ step item = .error fault := by
  constructor
  · intro fails
    induction fails with
    | @here item rest failed => exact ⟨[], item, rest, rfl, nofun, failed⟩
    | @later item rest passed _ inductionHypothesis =>
      rcases inductionHypothesis with ⟨before, failing, after, rfl, allPassed, failed⟩
      exact ⟨item :: before, failing, after, rfl, List.forall_mem_cons.2 ⟨passed, allPassed⟩,
        failed⟩
  · rintro ⟨before, item, after, rfl, allPassed, failed⟩
    exact append_iff.2 (.inr ⟨allPassed, .here failed⟩)

/-- What is made of the results does not matter for failures. -/
theorem map_iff {items : List α} {change : α → β → γ} :
    FailsFirst (fun item => (step item).map (change item)) fault items ↔
      FailsFirst step fault items := by
  have passed : ∀ item, Succeeds ((step item).map (change item)) ↔ Succeeds (step item) := by
    intro item
    refine ⟨?_, Fallible.map_succeeds⟩
    rintro ⟨_, mapped⟩
    rcases Fallible.map_eq_ok.1 mapped with ⟨value, done, _⟩
    exact ⟨value, done⟩
  simp only [iff_exists, passed, Fallible.map_eq_error]

/-- A traversal fails with the first failure along its items. -/
theorem mapM_eq_error {items : List α} :
    items.mapM step = .error fault ↔ FailsFirst step fault items := by
  induction items with
  | nil => exact ⟨nofun, nofun⟩
  | cons item rest inductionHypothesis =>
    rw [List.mapM_cons, Fallible.bind_eq_error]
    constructor
    · rintro (failed | ⟨value, passed, failed⟩)
      · exact .here failed
      · rcases Fallible.bind_eq_error.1 failed with behind | ⟨values, _, impossible⟩
        · exact .later ⟨value, passed⟩ (inductionHypothesis.1 behind)
        · cases impossible
    · rintro (failed | ⟨⟨value, passed⟩, behind⟩)
      · exact .inl failed
      · exact .inr ⟨value, passed, Fallible.bind_eq_error.2 (.inl (inductionHypothesis.2 behind))⟩

/-- A result that fails with the first failure along a list needs success everywhere. -/
theorem succeeds_iff {result : Except ε γ} {items : List α}
    (same : ∀ fault, result = .error fault ↔ FailsFirst step fault items) :
    Succeeds result ↔ ∀ item, item ∈ items → Succeeds (step item) := by
  constructor
  · rintro ⟨value, done⟩
    rcases succeeds_or_exists step items with passed | ⟨fault, fails⟩
    · exact passed
    · rw [(same fault).2 fails] at done
      cases done
  · intro passed
    cases outcome : result with
    | ok value => exact ⟨value, rfl⟩
    | error fault =>
      rcases iff_exists.1 ((same fault).1 outcome) with ⟨before, item, after, rfl, _, failed⟩
      rcases passed item (List.mem_append_right before List.mem_cons_self) with ⟨value, done⟩
      rw [failed] at done
      cases done

/-- Where each item stands for a list of its own, the first failure along the items is the first
one along their lists. -/
theorem flatMap_iff {δ : Type} {inner : γ → Except ε δ} {parts : α → List γ} {items : List α}
    (known : ∀ item, item ∈ items → ∀ fault,
      step item = .error fault ↔ FailsFirst inner fault (parts item)) :
    FailsFirst step fault items ↔ FailsFirst inner fault (items.flatMap parts) := by
  induction items with
  | nil => exact ⟨nofun, nofun⟩
  | cons item rest inductionHypothesis =>
    have own := known item List.mem_cons_self
    have behind := inductionHypothesis fun other listed =>
      known other (List.mem_cons_of_mem item listed)
    rw [List.flatMap_cons, append_iff, ← behind, ← own, ← succeeds_iff own]
    constructor
    · rintro (failed | ⟨passed, later⟩)
      · exact .inl failed
      · exact .inr ⟨passed, later⟩
    · rintro (failed | ⟨passed, later⟩)
      · exact .here failed
      · exact .later passed later

end FailsFirst

end FirstFailure

end SignalBox
