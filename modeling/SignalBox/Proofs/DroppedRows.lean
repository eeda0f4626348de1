import Mathlib.Data.List.Basic
import SignalBox.Proofs.GapTolerance
import SignalBox.Proofs.Grammar

namespace SignalBox

/-!
# What tolerance leaves out

A name in a known gap makes the whole row fall away, wherever it stands: gaps are only known
for rows without owner, for cells that hold a single condition, and for lock levers, of which
a cell has one or none.  The alternatives of a route lock, the only cells with several
conditions, have no gaps.  So what is overlooked never leaves a part of a row behind.

A table is what the entries of its rows make of the empty one, in order; skipped parts have
no entry.  Hence a tolerant build gives the table that a strict one gives of the rows which
can be built alone, and what such rows contribute does not depend on tolerance.
-/

open Notation (Cell Tree)

/-- The configuration with its tolerance of gaps set. -/
def EngineConfig.tolerating (config : EngineConfig) (tolerates : Bool) : EngineConfig :=
  { config with toleratesGaps := tolerates }

/-- The entry that a contribution is, if it is one. -/
def Contribution.value? : Contribution → Option LockEntry
  | entry value => some value
  | _ => none

/-- The entries that a row contributes. -/
def LockRow.entries (plant : Database) (config : EngineConfig) (row : LockRow) : List LockEntry :=
  (row.read plant config).filterMap Contribution.value?

/-! ## Tables as entries -/

namespace LockTable

variable {plant : Database} {config : EngineConfig} {rows : List LockRow} {table : LockTable}

/-- Contributions without fault are taken by entering their entries in order. -/
theorem take_of_faultless {contributions : List Contribution}
    (faultless : ∀ contribution, contribution ∈ contributions → contribution.isFault = false) :
    (table.take contributions).2 =
      .ok ((contributions.filterMap Contribution.value?).foldl enter table) := by
  induction contributions generalizing table with
  | nil => rfl
  | cons contribution rest inductionHypothesis =>
    rw [List.forall_mem_cons] at faultless
    cases contribution with
    | fault error => cases faultless.1
    | entry value => exact inductionHypothesis faultless.2
    | skip notice => exact inductionHypothesis faultless.2

/-- A table that is built of rows holds the entries of all of them, and it is built if they all
pass. -/
theorem build_eq_ok :
    (build plant config rows).2 = .ok table ↔
      (∀ row, row ∈ rows → row.Passes plant config) ∧
        (rows.flatMap (LockRow.entries plant config)).foldl enter {} = table := by
  have entered : (∀ row, row ∈ rows → row.Passes plant config) →
      (({} : LockTable).take (rows.flatMap (LockRow.read plant config))).2 =
        .ok ((rows.flatMap (LockRow.entries plant config)).foldl enter {}) := by
    intro passes
    rw [take_of_faultless, List.filterMap_flatMap]
    · rfl
    · intro contribution listed
      rcases List.mem_flatMap.1 listed with ⟨row, inside, own⟩
      exact (passes row inside).isFault_eq own
  constructor
  · intro built
    have passes := build_succeeds_iff_passes.1 ⟨table, built⟩
    have taken := take_of_build built
    rw [entered passes] at taken
    exact ⟨passes, Except.ok.inj taken⟩
  · rintro ⟨passes, rfl⟩
    rcases build_succeeds_iff_passes.2 passes with ⟨other, built⟩
    have taken := take_of_build built
    rw [entered passes] at taken
    rw [built, Except.ok.inj taken]

end LockTable

/-! ## Rows under both readings -/

namespace LockRow

variable {plant : Database} {config : EngineConfig} {row : LockRow} {owner : PlantObject}

theorem value?_unresolved (error : ResolveError) :
    (row.unresolved config error).value? = none := by
  cases contributed : row.unresolved config error with
  | entry value => exact absurd contributed.symm entry_ne_unresolved
  | skip notice => rfl
  | fault error => rfl

/-- Without tolerance nothing is overlooked. -/
theorem isFault_unresolved_strict (error : ResolveError) :
    (row.unresolved (config.tolerating false) error).isFault = true := by
  cases error <;> rfl

/-- No gap is known for the alternatives of a route lock. -/
theorem isFault_unresolved_routeLock (routeLock : row.column = .routeLock)
    (error : ResolveError) : (row.unresolved config error).isFault = true := by
  cases error with
  | ambiguous token place candidates => rfl
  | unresolved token place =>
    have outside : inKnownGap place row.localOwner token row.column = false := by
      simp [inKnownGap, KnownGap.all, KnownGap.covers, KnownGap.machineName?,
        LockColumn.directionSide?, routeLock]
    rw [unresolved, outside, Bool.and_false]
    rfl

/-- Apart from route locks, a cell holds one condition at most. -/
theorem trees_of_parse {cell : Option Cell} (other : row.column ≠ .routeLock)
    (parsed : Notation.parse ⟨plant.adjacency, row.plant, row.column⟩ row.raw = .ok cell) :
    (cell.map Cell.trees).getD [] = [] ∨ ∃ tree, (cell.map Cell.trees).getD [] = [tree] := by
  cases cell with
  | none => exact .inl rfl
  | some cell =>
    rcases Notation.parse_eq_ok.1 parsed with ⟨tokens, _, said⟩
    rcases Notation.parseTokens_eq_ok_some.1 said with ⟨items, _, _, rfl⟩
    rw [Notation.Site.cell, Notation.hasAlternatives_eq_false_iff.2 other]
    exact .inr ⟨_, rfl⟩

/-- A condition that resolves is read alike under all configurations. -/
theorem readTree_of_resolve {tree : Tree} {resolved : Clause}
    (found : plant.resolve row.column tree = .ok resolved) :
    row.readTree plant config owner tree =
      (row.resolvedEntries plant owner resolved).map .entry := by
  rw [readTree, found]

theorem readTree_of_error {tree : Tree} {error : ResolveError}
    (failed : plant.resolve row.column tree = .error error) :
    row.readTree plant config owner tree = [row.unresolved config error] := by
  rw [readTree, failed]

/-- A condition that resolves is accepted under all configurations. -/
theorem acceptsTree_of_resolve {tree : Tree} (resolves : Succeeds (plant.resolve row.column tree)) :
    row.AcceptsTree plant config tree := by
  refine acceptsTree_iff.2 fun error fails => ?_
  rcases resolves with ⟨resolved, resolution⟩
  cases resolution.symm.trans (Database.resolve_eq_error.2 fails)

/-- Where no failure is overlooked, a condition that is accepted resolves. -/
theorem resolve_of_acceptsTree {tree : Tree} (accepted : row.AcceptsTree plant config tree)
    (strict : ∀ error, (row.unresolved config error).isFault = true) :
    Succeeds (plant.resolve row.column tree) := by
  cases resolution : plant.resolve row.column tree with
  | ok resolved => exact ⟨resolved, rfl⟩
  | error error =>
    have overlooked := acceptsTree_iff.1 accepted error (Database.resolve_eq_error.1 resolution)
    rw [strict] at overlooked
    cases overlooked

/-- A condition that is accepted although it does not resolve is the only one of its cell. -/
theorem trees_of_failing {cell : Option Cell} {tree : Tree} {error : ResolveError}
    (parsed : Notation.parse ⟨plant.adjacency, row.plant, row.column⟩ row.raw = .ok cell)
    (accepted : row.AcceptsTree plant config tree) (listed : tree ∈ (cell.map Cell.trees).getD [])
    (failed : plant.resolve row.column tree = .error error) :
    (cell.map Cell.trees).getD [] = [tree] := by
  have other : row.column ≠ .routeLock := by
    intro routeLock
    rcases resolve_of_acceptsTree accepted (isFault_unresolved_routeLock routeLock) with
      ⟨resolved, resolution⟩
    cases failed.symm.trans resolution
  rcases trees_of_parse other parsed with none | ⟨single, same⟩
  · rw [none] at listed
    cases listed
  · rw [same, List.mem_singleton] at listed
    rw [same, listed]

/-- A lock-lever cell with one name is read as its lever. -/
theorem readDirectionLock_of_single {side : Side} {cell : Option Cell}
    {reference : Notation.Reference} (kind : owner.kind = .directionRoute)
    (single : (cell.map Cell.references).getD [] = [reference]) :
    row.readDirectionLock plant config owner side cell =
      match plant.resolveDirectionRoute row.column reference with
      | .ok found =>
        .entry (.lockLever owner.id side found.subjectToUnlock
          ⟨found.target, found.side.getD .left⟩)
      | .error error => row.unresolved config error := by
  unfold readDirectionLock
  rw [if_neg (not_not_intro kind)]
  split
  · next other same =>
    cases single.symm.trans same
    rfl
  · next several => exact absurd single (several reference)

/-- A row that passes without tolerance is read the same with it. -/
theorem read_of_strict (passes : row.Passes plant (config.tolerating false)) :
    row.read plant (config.tolerating true) = row.read plant (config.tolerating false) := by
  cases loads : config.loads row.plant with
  | false =>
    have unloaded : ∀ tolerates, row.read plant (config.tolerating tolerates) = [] :=
      fun tolerates => read_of_unloaded loads
    rw [unloaded, unloaded]
  | true =>
    have loaded : ∀ tolerates, (config.tolerating tolerates).loads row.plant = true :=
      fun tolerates => loads
    cases passes with
    | foreign unloaded => cases loads.symm.trans unloaded
    | ownerless absent tolerated gap => cases tolerated
    | conditions found plain parsed accepted =>
      rw [read_of_found (loaded true) found, readOwned_of_plain parsed plain,
        read_of_found (loaded false) found, readOwned_of_plain parsed plain]
      refine List.flatMap_congr fun tree listed => ?_
      rcases resolve_of_acceptsTree (accepted tree listed) isFault_unresolved_strict with
        ⟨resolved, resolution⟩
      rw [readTree_of_resolve resolution, readTree_of_resolve resolution]
    | lockLever found direction parsed kind accepted =>
      rw [read_of_found (loaded true) found, readOwned_of_direction parsed direction,
        read_of_found (loaded false) found, readOwned_of_direction parsed direction]
      unfold readDirectionLock
      rw [if_neg (not_not_intro kind), if_neg (not_not_intro kind)]
      split
      · next reference single =>
        rcases accepted reference single with ⟨lever, resolved⟩ | overlooked
        · rw [resolved]
        · cases overlooked.tolerated
      · rfl

/-- A row that only passes with tolerance contributes no entry. -/
theorem entries_of_overlooked (passes : row.Passes plant (config.tolerating true))
    (strict : ¬ row.Passes plant (config.tolerating false)) :
    row.entries plant (config.tolerating true) = [] := by
  have loaded : (config.tolerating true).loads row.plant = true := by
    cases loads : config.loads row.plant with
    | false => exact absurd (.foreign loads) strict
    | true => exact loads
  cases passes with
  | foreign unloaded => cases loaded.symm.trans unloaded
  | ownerless absent tolerated gap =>
    rw [entries, read_of_absent loaded absent, tolerated, gap]
    rfl
  | @conditions owner cell found plain parsed accepted =>
    rcases FailsFirst.succeeds_or_exists (plant.resolve row.column)
      ((cell.map Cell.trees).getD []) with resolve | ⟨error, fails⟩
    · exact absurd (.conditions found plain parsed fun tree listed =>
        acceptsTree_of_resolve (resolve tree listed)) strict
    · rcases FailsFirst.iff_exists.1 fails with ⟨before, tree, after, split, _, failed⟩
      have listed : tree ∈ (cell.map Cell.trees).getD [] :=
        split ▸ List.mem_append_right before List.mem_cons_self
      rw [entries, read_of_found loaded found, readOwned_of_plain parsed plain,
        trees_of_failing parsed (accepted tree listed) listed failed, List.flatMap_singleton,
        readTree_of_error failed, List.filterMap_cons_none (value?_unresolved error),
        List.filterMap_nil]
  | @lockLever owner cell side found direction parsed kind accepted =>
    rw [entries, read_of_found loaded found, readOwned_of_direction parsed direction]
    by_cases single : ∃ reference, (cell.map Cell.references).getD [] = [reference]
    · rcases single with ⟨reference, single⟩
      rw [readDirectionLock_of_single kind single]
      cases resolution : plant.resolveDirectionRoute row.column reference with
      | error error => exact List.filterMap_cons_none (value?_unresolved error)
      | ok lever =>
        refine absurd (.lockLever found direction parsed kind fun other same => ?_) strict
        rw [single, List.cons.injEq] at same
        exact .inl ⟨lever, same.1 ▸ resolution⟩
    · exact absurd (.lockLever found direction parsed kind fun reference same =>
        absurd ⟨reference, same⟩ single) strict

end LockRow

namespace LockTable

variable {plant : Database} {config : EngineConfig} {rows : List LockRow}

/-! ## Tables under both readings -/

/-- The rows of which a table can be built alone. -/
def buildable (plant : Database) (config : EngineConfig) (rows : List LockRow) : List LockRow :=
  rows.filter fun row => decide (Succeeds (build plant config [row]).2)

theorem build_single_succeeds_iff {row : LockRow} :
    Succeeds (build plant config [row]).2 ↔ row.Passes plant config := by
  rw [build_succeeds_iff_passes, List.forall_mem_singleton]

/-- Rows that pass with tolerance have the entries that those of them which pass without it
have. -/
theorem entries_of_tolerated
    (passes : ∀ row, row ∈ rows → row.Passes plant (config.tolerating true)) :
    rows.flatMap (LockRow.entries plant (config.tolerating true)) =
      (buildable plant (config.tolerating false) rows).flatMap
        (LockRow.entries plant (config.tolerating false)) := by
  induction rows with
  | nil => rfl
  | cons row rest inductionHypothesis =>
    rw [List.forall_mem_cons] at passes
    rw [List.flatMap_cons, inductionHypothesis passes.2]
    by_cases strict : row.Passes plant (config.tolerating false)
    · have kept : buildable plant (config.tolerating false) (row :: rest) =
          row :: buildable plant (config.tolerating false) rest :=
        List.filter_cons_of_pos (decide_eq_true (build_single_succeeds_iff.2 strict))
      rw [kept, List.flatMap_cons, LockRow.entries, LockRow.read_of_strict strict]
      rfl
    · have dropped : buildable plant (config.tolerating false) (row :: rest) =
          buildable plant (config.tolerating false) rest :=
        List.filter_cons_of_neg fun alone =>
          strict (build_single_succeeds_iff.1 (of_decide_eq_true alone))
      rw [dropped, LockRow.entries_of_overlooked passes.1 strict, List.nil_append]

/-- What is built with tolerance is what can be built without it of the rows that can be built
alone; and what can be built of all rows without tolerance, is built with it, too. -/
theorem tolerance_drops_rows (plant : Database) (config : EngineConfig) (rows : List LockRow) :
    (∀ table, (build plant (config.tolerating true) rows).2 = .ok table →
      (build plant (config.tolerating false)
        (buildable plant (config.tolerating false) rows)).2 = .ok table) ∧
    ∀ table, (build plant (config.tolerating false) rows).2 = .ok table →
      (build plant (config.tolerating true) rows).2 = .ok table := by
  constructor
  · intro table built
    rcases build_eq_ok.1 built with ⟨passes, rfl⟩
    rw [entries_of_tolerated passes]
    refine build_eq_ok.2 ⟨fun row kept => ?_, rfl⟩
    exact build_single_succeeds_iff.1 (of_decide_eq_true (List.mem_filter.1 kept).2)
  · intro table built
    rcases build_eq_ok.1 built with ⟨passes, rfl⟩
    have same : ∀ row, row ∈ rows → row.read plant (config.tolerating true) =
        row.read plant (config.tolerating false) :=
      fun row listed => LockRow.read_of_strict (passes row listed)
    refine build_eq_ok.2 ⟨fun row listed => ?_, ?_⟩
    · refine LockRow.passes_of_isFault fun contribution own => ?_
      rw [same row listed] at own
      exact (passes row listed).isFault_eq own
    · refine congrArg (List.foldl enter {}) (List.flatMap_congr fun row listed => ?_)
      rw [LockRow.entries, same row listed]
      rfl

/-- A plant whose machines are not modelled, with a route over a track circuit. -/
def sparsePlant : Database where
  objects := [⟨61, "TH66S_1R", .route, "TH66S"⟩, ⟨30, "TH66S_3T", .trackCircuit, "TH66S"⟩]

/-- A machine that is not modelled as a name and as an owner, and a row without gaps. -/
def sparseRows : List LockRow :=
  [⟨"TH66S", "TH66S_1R", .switchingMachine, "61"⟩, ⟨"TH66S", "TH66S_1R", .signalControl, "3T"⟩,
    ⟨"TH66S", "TH66S_W70", .detector, "3T"⟩]

/-- Two of the rows fall away, and the table of the third one remains. -/
theorem sparse_rows_are_dropped :
    ∃ table, (build sparsePlant (EngineConfig.tolerating {} true) sparseRows).2 = .ok table ∧
      ¬ Succeeds (build sparsePlant (EngineConfig.tolerating {} false) sparseRows).2 ∧
      buildable sparsePlant (EngineConfig.tolerating {} false) sparseRows =
        [⟨"TH66S", "TH66S_1R", .signalControl, "3T"⟩] ∧
      (build sparsePlant (EngineConfig.tolerating {} false)
        [⟨"TH66S", "TH66S_1R", .signalControl, "3T"⟩]).2 = .ok table := by
  have accepted : Succeeds (build sparsePlant (EngineConfig.tolerating {} true) sparseRows).2 :=
    Fallible.isOk_iff.1 (by decide +kernel)
  have kept : buildable sparsePlant (EngineConfig.tolerating {} false) sparseRows =
      [⟨"TH66S", "TH66S_1R", .signalControl, "3T"⟩] := by decide +kernel
  rcases accepted with ⟨table, built⟩
  refine ⟨table, built, by decide +kernel, kept, ?_⟩
  rw [← kept]
  exact (tolerance_drops_rows sparsePlant {} sparseRows).1 table built

end LockTable

end SignalBox
