import SignalBox.Proofs.Targets

namespace SignalBox

/-!
# Tolerance of gaps

Where gaps are tolerated, a name that cannot be resolved is overlooked if it lies in one.  A
condition is resolved from left to right only up to its first failure, however, and is
skipped as a whole where this failure is overlooked.  Nothing is asked of the names behind
it: they may lie outside of all gaps, or be ambiguous, and loading succeeds all the same.

So of every name a built table tells that it can be resolved, lies in a gap, or stands behind
one that does.  `LockRow.Passes` says what building asks of rows of all kinds; it asks no
more than that.
-/

open Notation (Cell Reference Tree)

/-! ## Names that cannot be resolved -/

/-- The fault is about the name: it gives its token and its plant. -/
def ResolveError.IsAbout (reference : Reference) : ResolveError → Prop
  | unresolved token place => token = reference.token ∧ place = reference.plant
  | ambiguous token place _ => token = reference.token ∧ place = reference.plant

namespace Strategy

variable {plant : Database} {column : LockColumn} {reference : Reference} {error : ResolveError}

theorem isAbout_of_attempt {strategy : Strategy}
    (failed : strategy.attempt plant column reference = .error error) :
    error.IsAbout reference := by
  unfold attempt at failed
  split at failed
  · cases strategy <;> simp only [find] at failed <;> grind [ResolveError.IsAbout]
  · cases failed

theorem isAbout_of_firstOf {strategies : List Strategy}
    (failed : firstOf plant column reference strategies = .error error) :
    error.IsAbout reference := by
  induction strategies with
  | nil =>
    cases failed
    exact ⟨rfl, rfl⟩
  | cons strategy rest inductionHypothesis =>
    rcases Fallible.bind_eq_error.1 failed with attempted | ⟨outcome, _, later⟩
    · exact isAbout_of_attempt attempted
    · cases outcome with
      | none => exact inductionHypothesis later
      | some targets => cases later

end Strategy

/-- A lock lever that cannot be resolved has no other fault than this. -/
theorem Database.isAbout_of_resolveDirectionRoute {plant : Database} {column : LockColumn}
    {reference : Reference} {error : ResolveError}
    (failed : plant.resolveDirectionRoute column reference = .error error) :
    error.IsAbout reference := by
  rcases Fallible.bind_eq_error.1 failed with attempted | ⟨outcome, _, later⟩
  · exact Strategy.isAbout_of_attempt attempted
  · split at later
    · cases later
    · cases later
      exact ⟨rfl, rfl⟩

/-! ## What a row may say -/

/-- Whether the contribution ends the building. -/
def Contribution.isFault : Contribution → Bool
  | fault _ => true
  | _ => false

/-- A name is overlooked in a row if gaps are tolerated and it is unresolved and lies in one,
for its own plant and token and for the owner and the column of the row. -/
structure LockRow.Overlooks {α : Type} (config : EngineConfig) (row : LockRow)
    (reference : Reference) (resolution : Except ResolveError α) : Prop where
  tolerated : config.toleratesGaps = true
  unresolved : resolution = .error (.unresolved reference.token reference.plant)
  gap : inKnownGap reference.plant row.localOwner reference.token row.column = true

namespace LockRow

variable (plant : Database) (config : EngineConfig) (row : LockRow)

/-- Each leaf of the condition can be resolved or is overlooked, unless a leaf before it is
overlooked. -/
def AcceptsTree (tree : Tree) : Prop :=
  ∀ before reference after, tree.leaves = before ++ reference :: after →
    (∃ earlier, earlier ∈ before ∧
        row.Overlooks config earlier (plant.targets row.column earlier)) ∨
      Succeeds (plant.targets row.column reference) ∨
      row.Overlooks config reference (plant.targets row.column reference)

/-- What building a table asks of a row. -/
inductive Passes : Prop
  | foreign (unloaded : config.loads row.plant = false)
  | ownerless (absent : plant.find? row.object = none)
      (tolerated : config.toleratesGaps = true)
      (gap : inKnownGap row.plant row.localOwner "" row.column = true)
  | conditions {owner : PlantObject} {cell : Option Cell}
      (found : plant.find? row.object = some owner)
      (plain : row.column.directionSide? = none)
      (parsed : Notation.parse ⟨plant.adjacency, row.plant, row.column⟩ row.raw = .ok cell)
      (accepted : ∀ tree, tree ∈ (cell.map Cell.trees).getD [] →
        row.AcceptsTree plant config tree)
  | lockLever {owner : PlantObject} {cell : Option Cell} {side : Side}
      (found : plant.find? row.object = some owner)
      (direction : row.column.directionSide? = some side)
      (parsed : Notation.parse ⟨plant.adjacency, row.plant, row.column⟩ row.raw = .ok cell)
      (kind : owner.kind = .directionRoute)
      (accepted : ∀ reference, (cell.map Cell.references).getD [] = [reference] →
        Succeeds (plant.resolveDirectionRoute row.column reference) ∨
          row.Overlooks config reference (plant.resolveDirectionRoute row.column reference))

variable {plant config row}

/-- Where a resolution fails on a name, the row goes on just if the name is overlooked. -/
theorem isFault_unresolved_iff {α : Type} {reference : Reference}
    {resolution : Except ResolveError α} {error : ResolveError}
    (failed : resolution = .error error) (about : error.IsAbout reference) :
    (row.unresolved config error).isFault = false ↔ row.Overlooks config reference resolution := by
  cases error with
  | ambiguous token place candidates =>
    refine ⟨nofun, fun overlooked => ?_⟩
    rw [failed] at overlooked
    cases overlooked.unresolved
  | unresolved token place =>
    rcases about with ⟨rfl, rfl⟩
    unfold unresolved
    dsimp only
    constructor
    · intro passed
      split at passed
      · next tolerant =>
        rcases Bool.and_eq_true_iff.1 tolerant with ⟨tolerated, gap⟩
        exact ⟨tolerated, failed, gap⟩
      · cases passed
    · rintro ⟨tolerated, _, gap⟩
      rw [tolerated, gap]
      rfl

/-- An overlooked leaf cannot be resolved. -/
theorem Overlooks.not_succeeds {α : Type} {reference : Reference}
    {resolution : Except ResolveError α} (overlooked : row.Overlooks config reference resolution) :
    ¬ Succeeds resolution := by
  rintro ⟨value, resolved⟩
  rw [overlooked.unresolved] at resolved
  cases resolved

/-- The leaves of a condition are accepted if its first failure, should there be one, is
overlooked. -/
theorem acceptsTree_iff {tree : Tree} :
    row.AcceptsTree plant config tree ↔
      ∀ error, FailsFirst (plant.targets row.column) error tree.leaves →
        (row.unresolved config error).isFault = false := by
  constructor
  · intro accepted error fails
    rcases FailsFirst.iff_exists.1 fails with ⟨before, reference, after, same, passed, failed⟩
    refine (isFault_unresolved_iff failed (Strategy.isAbout_of_firstOf failed)).2 ?_
    rcases accepted before reference after same with ⟨earlier, listed, hidden⟩ | resolved | own
    · exact absurd (passed earlier listed) hidden.not_succeeds
    · rcases resolved with ⟨value, resolved⟩
      rw [resolved] at failed
      cases failed
    · exact own
  · intro overlooked before reference after same
    rcases FailsFirst.succeeds_or_exists (plant.targets row.column) before with
      passed | ⟨error, fails⟩
    · right
      cases failed : plant.targets row.column reference with
      | ok value => exact .inl ⟨value, rfl⟩
      | error error =>
        have first := FailsFirst.iff_exists.2 ⟨before, reference, after, same, passed, failed⟩
        exact .inr ((isFault_unresolved_iff rfl (Strategy.isAbout_of_firstOf failed)).1
          (overlooked error first))
    · left
      have first : FailsFirst (plant.targets row.column) error tree.leaves :=
        same ▸ FailsFirst.append_iff.2 (.inl fails)
      rcases FailsFirst.iff_exists.1 fails with ⟨_, earlier, _, rfl, _, failed⟩
      exact ⟨earlier, List.mem_append_right _ List.mem_cons_self,
        (isFault_unresolved_iff failed (Strategy.isAbout_of_firstOf failed)).1
          (overlooked error first)⟩

/-- What a condition contributes is no fault if its leaves are accepted. -/
theorem isFault_readTree_iff {owner : PlantObject} {tree : Tree} :
    (∀ contribution, contribution ∈ row.readTree plant config owner tree →
      contribution.isFault = false) ↔ row.AcceptsTree plant config tree := by
  simp only [acceptsTree_iff, ← Database.resolve_eq_error]
  unfold readTree
  cases plant.resolve row.column tree with
  | ok resolved =>
    refine ⟨fun _ _ => nofun, fun _ contribution listed => ?_⟩
    rcases List.mem_map.1 listed with ⟨value, _, rfl⟩
    rfl
  | error error => simp

/-- A direction-lock cell is no fault if it belongs to a direction route and its lever, where
it has just one, can be resolved or is overlooked. -/
theorem isFault_readDirectionLock_iff {owner : PlantObject} {side : Side} {cell : Option Cell} :
    (row.readDirectionLock plant config owner side cell).isFault = false ↔
      owner.kind = .directionRoute ∧
        ∀ reference, (cell.map Cell.references).getD [] = [reference] →
          Succeeds (plant.resolveDirectionRoute row.column reference) ∨
            row.Overlooks config reference (plant.resolveDirectionRoute row.column reference) := by
  unfold readDirectionLock
  by_cases kind : owner.kind = .directionRoute
  · rw [if_neg (not_not_intro kind)]
    simp only [kind, true_and]
    split
    · next reference single =>
      rw [single]
      simp only [List.cons.injEq, and_true, forall_eq']
      cases resolved : plant.resolveDirectionRoute row.column reference with
      | ok lever => exact ⟨fun _ => .inl ⟨lever, rfl⟩, fun _ => rfl⟩
      | error error =>
        have about := Database.isAbout_of_resolveDirectionRoute resolved
        have failed : (.error error : Except ResolveError Requirement) = .error error := rfl
        refine (isFault_unresolved_iff failed about).trans ⟨.inr, ?_⟩
        rintro (⟨_, impossible⟩ | overlooked)
        · cases impossible
        · exact overlooked
    · next several =>
      exact ⟨fun _ reference single => absurd single (several reference), fun _ => rfl⟩
  · rw [if_pos kind]
    exact ⟨nofun, fun accepted => absurd accepted.1 kind⟩

theorem read_of_unloaded (unloaded : config.loads row.plant = false) :
    row.read plant config = [] := by
  rw [read, unloaded]
  rfl

theorem read_of_absent (loaded : config.loads row.plant = true)
    (absent : plant.find? row.object = none) :
    row.read plant config =
      if config.toleratesGaps && inKnownGap row.plant row.localOwner "" row.column then
        [.skip (.rowSkipped row.context)]
      else [.fault (.plantData (.unknownOwner row.object row.context))] := by
  rw [read, loaded, absent]
  rfl

theorem read_of_found {owner : PlantObject} (loaded : config.loads row.plant = true)
    (found : plant.find? row.object = some owner) :
    row.read plant config = row.readOwned plant config owner := by
  rw [read, loaded, found]
  rfl

section Owned

variable {owner : PlantObject} {cell : Option Cell}
  (parsed : Notation.parse ⟨plant.adjacency, row.plant, row.column⟩ row.raw = .ok cell)
include parsed

theorem readOwned_of_plain (plain : row.column.directionSide? = none) :
    row.readOwned plant config owner =
      ((cell.map Cell.trees).getD []).flatMap (row.readTree plant config owner) := by
  rw [readOwned, parsed]
  dsimp only
  rw [plain]

theorem readOwned_of_direction {side : Side} (direction : row.column.directionSide? = some side) :
    row.readOwned plant config owner = [row.readDirectionLock plant config owner side cell] := by
  rw [readOwned, parsed]
  dsimp only
  rw [direction]

end Owned

/-- The row passes if none of its contributions is a fault. -/
theorem passes_of_isFault
    (faultless : ∀ contribution, contribution ∈ row.read plant config →
      contribution.isFault = false) : row.Passes plant config := by
  cases loaded : config.loads row.plant with
  | false => exact .foreign loaded
  | true =>
    cases found : plant.find? row.object with
    | none =>
      rw [read_of_absent loaded found] at faultless
      split at faultless
      · next tolerant =>
        rcases Bool.and_eq_true_iff.1 tolerant with ⟨tolerated, gap⟩
        exact .ownerless found tolerated gap
      · cases faultless _ (List.mem_singleton_self _)
    | some owner =>
      rw [read_of_found loaded found] at faultless
      cases parsed : Notation.parse ⟨plant.adjacency, row.plant, row.column⟩ row.raw with
      | error cause =>
        rw [readOwned, parsed] at faultless
        cases faultless _ (List.mem_singleton_self _)
      | ok cell =>
        cases direction : row.column.directionSide? with
        | none =>
          rw [readOwned_of_plain parsed direction] at faultless
          refine .conditions found direction parsed fun tree listed => ?_
          exact isFault_readTree_iff.1 fun contribution own =>
            faultless contribution (List.mem_flatMap.2 ⟨tree, listed, own⟩)
        | some side =>
          rw [readOwned_of_direction parsed direction] at faultless
          have lever := isFault_readDirectionLock_iff.1
            (faultless _ (List.mem_singleton_self _))
          exact .lockLever found direction parsed lever.1 lever.2

theorem Passes.isFault_eq (passes : row.Passes plant config) {contribution : Contribution}
    (listed : contribution ∈ row.read plant config) : contribution.isFault = false := by
  cases loaded : config.loads row.plant with
  | false =>
    rw [read_of_unloaded loaded] at listed
    cases listed
  | true =>
    cases passes with
    | foreign unloaded =>
      rw [unloaded] at loaded
      cases loaded
    | ownerless absent tolerated gap =>
      rw [read_of_absent loaded absent, tolerated, gap] at listed
      rw [List.mem_singleton.1 listed]
      rfl
    | conditions found plain parsed accepted =>
      rw [read_of_found loaded found, readOwned_of_plain parsed plain] at listed
      rcases List.mem_flatMap.1 listed with ⟨tree, inside, own⟩
      exact isFault_readTree_iff.2 (accepted tree inside) contribution own
    | lockLever found direction parsed kind accepted =>
      rw [read_of_found loaded found, readOwned_of_direction parsed direction] at listed
      rw [List.mem_singleton.1 listed]
      exact isFault_readDirectionLock_iff.2 ⟨kind, accepted⟩

/-- A row that passes has its conditions accepted, if it is one that has conditions. -/
theorem Passes.acceptsTrees (passes : row.Passes plant config) {owner : PlantObject}
    (loaded : config.loads row.plant = true) (found : plant.find? row.object = some owner)
    (plain : row.column.directionSide? = none) :
    ∃ cell, Notation.parse ⟨plant.adjacency, row.plant, row.column⟩ row.raw = .ok cell ∧
      ∀ tree, tree ∈ (cell.map Cell.trees).getD [] → row.AcceptsTree plant config tree := by
  cases passes with
  | foreign unloaded =>
    rw [unloaded] at loaded
    cases loaded
  | ownerless absent _ _ =>
    rw [absent] at found
    cases found
  | conditions _ _ parsed accepted => exact ⟨_, parsed, accepted⟩
  | lockLever _ direction _ _ _ =>
    rw [direction] at plain
    cases plain

end LockRow

namespace LockTable

variable {plant : Database} {config : EngineConfig} {rows : List LockRow}

/-! ## Building -/

theorem take_succeeds_iff {table : LockTable} {contributions : List Contribution} :
    Succeeds (table.take contributions).2 ↔
      ∀ contribution, contribution ∈ contributions → contribution.isFault = false := by
  induction contributions generalizing table with
  | nil =>
    refine ⟨fun _ contribution impossible => ?_, fun _ => ⟨table, rfl⟩⟩
    cases impossible
  | cons contribution rest inductionHypothesis =>
    rw [List.forall_mem_cons]
    cases contribution with
    | entry value =>
      rw [take, inductionHypothesis]
      exact (and_iff_right rfl).symm
    | skip notice =>
      rw [take, inductionHypothesis]
      exact (and_iff_right rfl).symm
    | fault error => exact ⟨nofun, nofun⟩

theorem build_succeeds_iff :
    Succeeds (build plant config rows).2 ↔
      Succeeds (({} : LockTable).take (rows.flatMap (LockRow.read plant config))).2 := by
  unfold build
  rcases ({} : LockTable).take (rows.flatMap (LockRow.read plant config)) with ⟨skips, outcome⟩
  cases outcome with
  | error error => exact Iff.rfl
  | ok table => exact Iff.rfl

/-- A table can be built exactly if each of its rows passes; no row stands in for another. -/
theorem build_succeeds_iff_passes :
    Succeeds (build plant config rows).2 ↔ ∀ row, row ∈ rows → row.Passes plant config := by
  rw [build_succeeds_iff, take_succeeds_iff]
  constructor
  · intro faultless row listed
    exact LockRow.passes_of_isFault fun contribution own =>
      faultless contribution (List.mem_flatMap.2 ⟨row, listed, own⟩)
  · intro passes contribution listed
    rcases List.mem_flatMap.1 listed with ⟨row, inside, own⟩
    exact (passes row inside).isFault_eq own

/-- Building a table tells of every leaf of every condition that it can be resolved, or that
it is overlooked, or that a leaf before it in the same condition is; and where this can be
told of all conditions, and the rows without conditions pass as well, the table is built. -/
theorem leaves_outside_gaps_are_faults_unless_behind_one (plant : Database)
    (config : EngineConfig) (rows : List LockRow) :
    (∀ table, (build plant config rows).2 = .ok table →
      ∀ row, row ∈ rows → config.loads row.plant = true →
      ∀ owner, plant.find? row.object = some owner → row.column.directionSide? = none →
        ∃ cell, Notation.parse ⟨plant.adjacency, row.plant, row.column⟩ row.raw = .ok cell ∧
          ∀ tree, tree ∈ (cell.map Cell.trees).getD [] →
          ∀ before reference after, tree.leaves = before ++ reference :: after →
            (∃ earlier, earlier ∈ before ∧
                row.Overlooks config earlier (plant.targets row.column earlier)) ∨
              Succeeds (plant.targets row.column reference) ∨
              row.Overlooks config reference (plant.targets row.column reference)) ∧
      (Succeeds (build plant config rows).2 ↔
        ∀ row, row ∈ rows → row.Passes plant config) := by
  refine ⟨fun table built row listed loaded owner found plain => ?_, build_succeeds_iff_passes⟩
  exact (build_succeeds_iff_passes.1 ⟨table, built⟩ row listed).acceptsTrees loaded found plain

/-- A plant of whose machines none is modelled, with a route over them. -/
def machineless : Database where
  objects := [⟨61, "TH66S_1R", .route, "TH66S"⟩]

/-- The row of the route that names some machines. -/
def machineRow (raw : String) : LockRow :=
  ⟨"TH66S", "TH66S_1R", .switchingMachine, raw⟩

/-- The machine 61 lies in a gap, so the row is loaded. -/
theorem machine_in_gap_is_overlooked :
    ∃ table, (build machineless {} [machineRow "61"]).2 = .ok table ∧
      (machineRow "61").Overlooks {} ⟨"61", "TH66S", false, false, none⟩
        (machineless.targets .switchingMachine ⟨"61", "TH66S", false, false, none⟩) := by
  have accepted : Succeeds (build machineless {} [machineRow "61"]).2 :=
    Fallible.isOk_iff.1 (by decide +kernel)
  rcases accepted with ⟨table, built⟩
  rcases (leaves_outside_gaps_are_faults_unless_behind_one machineless {}
      [machineRow "61"]).1 table built (machineRow "61") (List.mem_singleton_self _) (by decide)
      ⟨61, "TH66S_1R", .route, "TH66S"⟩ (by decide +kernel) (by decide) with
    ⟨cell, parsed, leaves⟩
  have read : (Notation.parse ⟨machineless.adjacency, "TH66S", .switchingMachine⟩ "61").toOption.any
      (fun cell => cell = some (.clause (.leaf ⟨"61", "TH66S", false, false, none⟩))) = true := by
    decide +kernel
  rcases Fallible.exists_of_any read with ⟨expected, known, same⟩
  cases parsed.symm.trans known
  cases of_decide_eq_true same
  rcases leaves _ (List.mem_singleton_self _) [] _ [] rfl with
    ⟨_, impossible, _⟩ | resolved | overlooked
  · cases impossible
  · exact absurd resolved (by decide +kernel)
  · exact ⟨table, built, overlooked⟩

/-- The machine 99 is not modelled either, and it lies in no gap.  It is a fault in front of
the machine 61 and goes unnoticed behind it. -/
theorem leaf_behind_a_gap_goes_unnoticed :
    ∃ table cell tree reference,
      (build machineless {} [machineRow "61 99"]).2 = .ok table ∧
      machineless.find? "TH66S_1R" = some ⟨61, "TH66S_1R", .route, "TH66S"⟩ ∧
      Notation.parse ⟨machineless.adjacency, "TH66S", .switchingMachine⟩ "61 99" =
        .ok (some cell) ∧
      tree ∈ cell.trees ∧ reference ∈ tree.leaves ∧
      ¬ Succeeds (machineless.targets .switchingMachine reference) ∧
      ¬ (machineRow "61 99").Overlooks {} reference
        (machineless.targets .switchingMachine reference) ∧
      ¬ Succeeds (build machineless {} [machineRow "99 61"]).2 := by
  have accepted : Succeeds (build machineless {} [machineRow "61 99"]).2 :=
    Fallible.isOk_iff.1 (by decide +kernel)
  have read : (Notation.parse ⟨machineless.adjacency, "TH66S", .switchingMachine⟩
      "61 99").toOption.any (fun cell => cell = some (.clause (.all
        [.leaf ⟨"61", "TH66S", false, false, none⟩,
          .leaf ⟨"99", "TH66S", false, false, none⟩]))) = true := by
    decide +kernel
  have stored : machineless.find? "TH66S_1R" = some ⟨61, "TH66S_1R", .route, "TH66S"⟩ := by
    decide +kernel
  rcases accepted with ⟨table, built⟩
  rcases Fallible.exists_of_any read with ⟨cell, parsed, same⟩
  cases of_decide_eq_true same
  refine ⟨table, _, _, ⟨"99", "TH66S", false, false, none⟩, built, stored, parsed,
    List.mem_singleton_self _, by decide +kernel, by decide +kernel, ?_, by decide +kernel⟩
  intro overlooked
  have outside : inKnownGap "TH66S" (machineRow "61 99").localOwner "99" .switchingMachine =
      false := by decide +kernel
  cases outside.symm.trans overlooked.gap

end LockTable

end SignalBox
