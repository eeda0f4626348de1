import SignalBox.Proofs.Levels
import SignalBox.Proofs.Lists

namespace SignalBox
namespace SignalGraph

/-!
# Records stand at the distance of their targets

The distance of a target is the length of a shortest walk of at least one step, so that a
signal on a cycle is as far from itself as its shortest cycle is long.  The records of a
signal at a depth are those of the targets at that distance, up to the depth of the graph,
and a target stands in one record only.

The search keeps three things: what it has seen are the targets up to the depth reached,
each of them once, and the last level are the targets at that depth.  A target one step
further has another target at the depth reached right before it, so it is found from the
last level; and a level that stays empty has none behind it, so nothing is lost by stopping
there.

The search hands each level on to the next one.  It finds the same levels where the level
before is looked up by its index among those found so far, and that index is always one of
them.
-/

variable {graph : SignalGraph} {hops further depth : Nat} {signal via target : String}
  {seen : List String} {previous : List NextSignal}

/-! ## Distances -/

/-- The length of a shortest walk with at least one step. -/
structure IsDistance (graph : SignalGraph) (signal target : String) (hops : Nat) : Prop where
  positive : 0 < hops
  walk : graph.Walk hops signal target
  least : ∀ other, 0 < other → graph.Walk other signal target → hops ≤ other

/-- A walk can be continued at its end. -/
theorem Walk.concat (walk : graph.Walk hops signal via) (last : target ∈ graph.nextSignals via) :
    graph.Walk (hops + 1) signal target := by
  induction walk with
  | here signal => exact .step last (.here target)
  | step first rest inductionHypothesis => exact .step first (inductionHypothesis last)

/-- A walk with a step has a last one. -/
theorem Walk.exists_last (walk : graph.Walk (hops + 1) signal target) :
    ∃ via, graph.Walk hops signal via ∧ target ∈ graph.nextSignals via := by
  induction hops generalizing signal with
  | zero =>
    cases walk with
    | step first rest =>
      cases rest
      exact ⟨signal, .here signal, first⟩
  | succ hops inductionHypothesis =>
    cases walk with
    | step first rest =>
      rcases inductionHypothesis rest with ⟨via, walk, last⟩
      exact ⟨via, .step first walk, last⟩

/-- Whatever is reached in some steps has a distance. -/
theorem Walk.exists_distance (walk : graph.Walk hops signal target) (positive : 0 < hops) :
    ∃ least, least ≤ hops ∧ graph.IsDistance signal target least := by
  induction hops using Nat.strongRecOn with
  | ind hops inductionHypothesis =>
    by_cases shorter : ∃ other, 0 < other ∧ other < hops ∧ graph.Walk other signal target
    · rcases shorter with ⟨other, otherPositive, less, otherWalk⟩
      rcases inductionHypothesis other less otherWalk otherPositive with ⟨least, below, distance⟩
      exact ⟨least, Nat.le_trans below (Nat.le_of_lt less), distance⟩
    · refine ⟨hops, Nat.le_refl hops, positive, walk, fun other otherPositive otherWalk => ?_⟩
      apply Nat.le_of_not_lt
      intro less
      exact shorter ⟨other, otherPositive, less, otherWalk⟩

/-- A target has at most one distance. -/
theorem IsDistance.unique {other : Nat} (distance : graph.IsDistance signal target hops)
    (otherDistance : graph.IsDistance signal target other) : hops = other :=
  Nat.le_antisymm (distance.least other otherDistance.positive otherDistance.walk)
    (otherDistance.least hops distance.positive distance.walk)

/-- The signals directly ahead are those at distance one. -/
theorem isDistance_one : graph.IsDistance signal target 1 ↔ target ∈ graph.nextSignals signal := by
  constructor
  · intro distance
    rcases distance.walk.exists_last with ⟨via, walk, last⟩
    cases walk
    exact last
  · intro ahead
    exact ⟨Nat.one_pos, .step ahead (.here target), fun other positive _ => positive⟩

/-- A shortest walk of several steps leads through a target that is one step nearer. -/
theorem IsDistance.exists_before (distance : graph.IsDistance signal target (depth + 1))
    (positive : 0 < depth) :
    ∃ via, graph.IsDistance signal via depth ∧ target ∈ graph.nextSignals via := by
  rcases distance.walk.exists_last with ⟨via, walk, last⟩
  refine ⟨via, ⟨positive, walk, fun other _ shorter => ?_⟩, last⟩
  have bound : depth + 1 ≤ other + 1 :=
    distance.least (other + 1) (Nat.succ_pos other) (shorter.concat last)
  exact Nat.le_of_succ_le_succ bound

/-- Where no target is at a distance, none is further away. -/
theorem not_isDistance_of_le (none : ∀ target, ¬ graph.IsDistance signal target depth)
    (positive : 0 < depth) (behind : depth ≤ hops) (target : String) :
    ¬ graph.IsDistance signal target hops := by
  induction behind generalizing target with
  | refl => exact none target
  | step behind inductionHypothesis =>
    intro distance
    rcases distance.exists_before (Nat.lt_of_lt_of_le positive behind) with ⟨via, before, _⟩
    exact inductionHypothesis via before

/-! ## One level -/

theorem fresh_sublist (seen : List String) (candidates : List (String × String)) :
    (fresh seen candidates).Sublist candidates := by
  induction candidates generalizing seen with
  | nil => exact .slnil
  | cons first rest inductionHypothesis =>
    rw [fresh]
    split
    · exact (inductionHypothesis seen).cons first
    · exact (inductionHypothesis (first.2 :: seen)).cons_cons first

/-- No target of a fresh candidate was seen before or is that of another one. -/
theorem nodup_fresh_append (distinct : seen.Nodup) (candidates : List (String × String)) :
    ((fresh seen candidates).map Prod.snd ++ seen).Nodup := by
  induction candidates generalizing seen with
  | nil => exact distinct
  | cons first rest inductionHypothesis =>
    rw [fresh]
    split
    · exact inductionHypothesis distinct
    · next unknown =>
      have further : (first.2 :: seen).Nodup :=
        List.nodup_cons.2 ⟨fun known => unknown (List.contains_iff_mem.2 known), distinct⟩
      rw [List.map_cons, List.cons_append]
      exact List.perm_middle.nodup_iff.1 (inductionHypothesis further)

/-- The targets of the fresh candidates are the targets not seen before. -/
theorem mem_fresh_iff (distinct : seen.Nodup) {candidates : List (String × String)} :
    target ∈ (fresh seen candidates).map Prod.snd ↔
      target ∈ candidates.map Prod.snd ∧ target ∉ seen := by
  constructor
  · intro found
    refine ⟨((fresh_sublist seen candidates).map Prod.snd).subset found, fun known => ?_⟩
    exact (List.nodup_append.1 (nodup_fresh_append distinct candidates)).2.2 target found
      target known rfl
  · rintro ⟨candidate, unknown⟩
    rcases List.mem_append.1 (seen_or_fresh candidate) with found | known
    · exact found
    · exact absurd known unknown

theorem mem_targets_stepsFrom :
    target ∈ (graph.stepsFrom previous).map Prod.snd ↔
      ∃ via, Records previous via ∧ target ∈ graph.nextSignals via := by
  rw [List.mem_map]
  constructor
  · rintro ⟨⟨via, other⟩, step, rfl⟩
    exact ⟨via, mem_stepsFrom.1 step⟩
  · rintro ⟨via, ahead⟩
    exact ⟨(via, target), mem_stepsFrom.2 ahead, rfl⟩

/-- What the search knows once the targets up to a depth are found. -/
structure Searched (graph : SignalGraph) (signal : String) (depth : Nat) (seen : List String)
    (previous : List NextSignal) : Prop where
  positive : 0 < depth
  distinct : seen.Nodup
  seen_iff : ∀ target, target ∈ seen ↔
    ∃ hops, hops ≤ depth ∧ graph.IsDistance signal target hops
  previous_iff : ∀ target, Records previous target ↔ graph.IsDistance signal target depth

/-- The targets that are found next are those one step further away. -/
theorem Searched.mem_fresh_iff (searched : Searched graph signal depth seen previous) :
    target ∈ (fresh seen (graph.stepsFrom previous)).map Prod.snd ↔
      graph.IsDistance signal target (depth + 1) := by
  rw [SignalGraph.mem_fresh_iff searched.distinct, mem_targets_stepsFrom, searched.seen_iff]
  constructor
  · rintro ⟨⟨via, recorded, ahead⟩, unknown⟩
    have reached : graph.Walk (depth + 1) signal target :=
      ((searched.previous_iff via).1 recorded).walk.concat ahead
    rcases reached.exists_distance (Nat.succ_pos depth) with ⟨least, below, distance⟩
    rcases Nat.lt_or_eq_of_le below with nearer | same
    · exact absurd ⟨least, Nat.le_of_lt_succ nearer, distance⟩ unknown
    · exact same ▸ distance
  · intro distance
    rcases distance.exists_before searched.positive with ⟨via, before, ahead⟩
    refine ⟨⟨via, (searched.previous_iff via).2 before, ahead⟩, ?_⟩
    rintro ⟨hops, near, other⟩
    rw [← distance.unique other] at near
    exact Nat.not_succ_le_self depth near

/-- The search goes on from the targets that it found. -/
theorem Searched.next (searched : Searched graph signal depth seen previous)
    {found : List (String × String)} (level : fresh seen (graph.stepsFrom previous) = found) :
    Searched graph signal (depth + 1) (found.map Prod.snd ++ seen)
      (found.map fun step => ⟨signal, step.1, step.2, depth + 1⟩) := by
  subst level
  refine ⟨Nat.succ_pos depth, nodup_fresh_append searched.distinct _, fun target => ?_,
    fun target => ?_⟩
  · rw [List.mem_append, searched.mem_fresh_iff, searched.seen_iff]
    constructor
    · rintro (here | ⟨hops, near, distance⟩)
      · exact ⟨depth + 1, Nat.le_refl _, here⟩
      · exact ⟨hops, Nat.le_succ_of_le near, distance⟩
    · rintro ⟨hops, near, distance⟩
      rcases Nat.lt_or_eq_of_le near with nearer | same
      · exact .inr ⟨hops, Nat.le_of_lt_succ nearer, distance⟩
      · exact .inl (same ▸ distance)
  · rw [records_level, searched.mem_fresh_iff]

/-! ## All levels -/

theorem levelsBehind_of_nothing (level : fresh seen (graph.stepsFrom previous) = []) :
    graph.levelsBehind signal further depth seen previous = [] := by
  cases further with
  | zero => rfl
  | succ further => rw [levelsBehind, level]

/-- The levels behind the depth that was searched hold the targets further away, level by
level, as far as the search goes. -/
theorem records_levelsBehind (searched : Searched graph signal depth seen previous)
    (index : Nat) :
    Records (((graph.levelsBehind signal further (depth + 1) seen previous)[index]?).getD [])
        target ↔
      index < further ∧ graph.IsDistance signal target (depth + 1 + index) := by
  induction further generalizing depth seen previous index with
  | zero =>
    constructor
    · intro impossible
      cases impossible
    · rintro ⟨impossible, _⟩
      cases impossible
  | succ further inductionHypothesis =>
    cases level : fresh seen (graph.stepsFrom previous) with
    | nil =>
      have none : ∀ target, ¬ graph.IsDistance signal target (depth + 1) := by
        intro target distance
        have found := searched.mem_fresh_iff.2 distance
        rw [level] at found
        cases found
      rw [levelsBehind_of_nothing level]
      constructor
      · intro impossible
        cases impossible
      · rintro ⟨_, distance⟩
        exact absurd distance
          (not_isDistance_of_le none (Nat.succ_pos depth) (Nat.le_add_right _ index) target)
    | cons first rest =>
      rw [levelsBehind_of_found level (List.cons_ne_nil first rest)]
      cases index with
      | zero =>
        rw [List.getElem?_cons_zero, Option.getD_some, records_level, ← level,
          searched.mem_fresh_iff]
        exact ⟨fun distance => ⟨Nat.succ_pos further, distance⟩, fun both => both.2⟩
      | succ index =>
        rw [List.getElem?_cons_succ, inductionHypothesis (searched.next level) index,
          Nat.succ_lt_succ_iff, Nat.add_assoc (depth + 1) 1 index, Nat.add_comm 1 index]

/-- The targets of all levels behind are distinct, and none was seen before. -/
theorem nodup_levelsBehind_append (distinct : seen.Nodup) :
    ((graph.levelsBehind signal further depth seen previous).flatten.map NextSignal.target ++
      seen).Nodup := by
  induction further generalizing depth seen previous with
  | zero => exact distinct
  | succ further inductionHypothesis =>
    cases level : fresh seen (graph.stepsFrom previous) with
    | nil =>
      rw [levelsBehind_of_nothing level]
      exact distinct
    | cons first rest =>
      have known : ((first :: rest).map Prod.snd ++ seen).Nodup :=
        level ▸ nodup_fresh_append distinct _
      rw [levelsBehind_of_found level (List.cons_ne_nil first rest), List.flatten_cons,
        List.map_append, List.map_map, List.append_assoc]
      exact (List.perm_append_comm_assoc _ _ _).nodup_iff.1 (inductionHypothesis known)

/-! ## Sources -/

/-- A level of a signal whose records lead in one step from targets of the level before. -/
def Continues (graph : SignalGraph) (signal : String) (depth : Nat)
    (previous level : List NextSignal) : Prop :=
  ∀ record, record ∈ level → record.signal = signal ∧ record.depth = depth ∧
    Records previous record.source ∧ record.target ∈ graph.nextSignals record.source

theorem continues_fresh (graph : SignalGraph) (signal : String) (depth : Nat)
    (seen : List String) (previous : List NextSignal) :
    Continues graph signal depth previous
      ((fresh seen (graph.stepsFrom previous)).map fun step =>
        ⟨signal, step.1, step.2, depth⟩) := by
  intro record listed
  rcases List.mem_map.1 listed with ⟨step, found, rfl⟩
  exact ⟨rfl, rfl, mem_stepsFrom.1 ((fresh_sublist seen _).subset found)⟩

/-- Each level behind a level continues the one before it. -/
theorem continues_levelsBehind (index : Nat) :
    Continues graph signal (depth + index)
      (((previous :: graph.levelsBehind signal further depth seen previous)[index]?).getD [])
      (((graph.levelsBehind signal further depth seen previous)[index]?).getD []) := by
  induction further generalizing depth seen previous index with
  | zero =>
    intro record impossible
    cases impossible
  | succ further inductionHypothesis =>
    cases level : fresh seen (graph.stepsFrom previous) with
    | nil =>
      rw [levelsBehind_of_nothing level]
      intro record impossible
      cases impossible
    | cons first rest =>
      rw [levelsBehind_of_found level (List.cons_ne_nil first rest)]
      cases index with
      | zero => exact level ▸ continues_fresh graph signal depth seen previous
      | succ index =>
        have later := @inductionHypothesis (depth + 1) ((first :: rest).map Prod.snd ++ seen)
          ((first :: rest).map fun step => ⟨signal, step.1, step.2, depth⟩) index
        rw [Nat.add_assoc, Nat.add_comm 1 index] at later
        exact later

/-! ## The records of a signal -/

/-- The records of the signals directly ahead. -/
def directRecords (graph : SignalGraph) (signal : String) : List NextSignal :=
  (graph.nextSignals signal).map fun target => ⟨signal, signal, target, 1⟩

theorem targets_directRecords (graph : SignalGraph) (signal : String) :
    (graph.directRecords signal).map NextSignal.target = graph.nextSignals signal := by
  rw [directRecords, List.map_map]
  exact List.map_id _

theorem levels_of_nothing (nothing : graph.nextSignals signal = []) :
    graph.levels signal = [] := by
  rw [levels, nothing]

theorem levels_of_ahead (ahead : graph.nextSignals signal ≠ []) :
    graph.levels signal =
      graph.directRecords signal ::
        graph.levelsBehind signal (graph.maxDepth - 1) 2 (graph.nextSignals signal)
          (graph.directRecords signal) := by
  rw [levels, directRecords]
  cases targets : graph.nextSignals signal with
  | nil => exact absurd targets ahead
  | cons first rest => rfl

/-- The records at depth one are those of the signals directly ahead. -/
theorem successors_one (graph : SignalGraph) (signal : String) :
    graph.successors signal 1 = graph.directRecords signal := by
  by_cases nothing : graph.nextSignals signal = []
  · rw [successors, levels_of_nothing nothing, directRecords, nothing]
    rfl
  · rw [successors, levels_of_ahead nothing]
    rfl

theorem targets_successors_one (graph : SignalGraph) (signal : String) :
    (graph.successors signal 1).map NextSignal.target = graph.nextSignals signal := by
  rw [successors_one, targets_directRecords]

/-- The search begins with the signals directly ahead. -/
theorem searched_directRecords (distinct : (graph.nextSignals signal).Nodup) :
    Searched graph signal 1 (graph.nextSignals signal) (graph.directRecords signal) := by
  refine ⟨Nat.one_pos, distinct, fun target => ?_, fun target => ?_⟩
  · rw [← isDistance_one]
    constructor
    · intro distance
      exact ⟨1, Nat.le_refl 1, distance⟩
    · rintro ⟨hops, near, distance⟩
      exact Nat.le_antisymm near distance.positive ▸ distance
  · rw [isDistance_one, Records, targets_directRecords]

/-- The records at a depth are those of the targets at that distance, as far as the graph
goes. -/
theorem records_successors (distinct : (graph.nextSignals signal).Nodup) :
    Records (graph.successors signal depth) target ↔
      depth ≤ max 1 graph.maxDepth ∧ graph.IsDistance signal target depth := by
  cases depth with
  | zero =>
    constructor
    · intro impossible
      cases impossible
    · rintro ⟨_, distance⟩
      cases distance.positive
  | succ index =>
    rw [successors]
    by_cases nothing : graph.nextSignals signal = []
    · have none : ∀ target, ¬ graph.IsDistance signal target 1 := by
        intro target distance
        have ahead := isDistance_one.1 distance
        rw [nothing] at ahead
        cases ahead
      rw [levels_of_nothing nothing]
      constructor
      · intro impossible
        cases impossible
      · rintro ⟨_, distance⟩
        exact absurd distance
          (not_isDistance_of_le none Nat.one_pos (Nat.le_add_left 1 index) target)
    · rw [levels_of_ahead nothing]
      cases index with
      | zero =>
        rw [List.getElem?_cons_zero, Option.getD_some,
          (searched_directRecords distinct).previous_iff]
        exact ⟨fun distance => ⟨Nat.le_max_left 1 _, distance⟩, fun both => both.2⟩
      | succ index =>
        have within : index < graph.maxDepth - 1 ↔ index + 2 ≤ max 1 graph.maxDepth := by
          omega
        rw [List.getElem?_cons_succ, records_levelsBehind (searched_directRecords distinct),
          within, Nat.add_comm (1 + 1) index]

/-- A record of a signal at a depth, whose source is the signal itself or a target at the
depth before. -/
structure IsRecord (graph : SignalGraph) (signal : String) (depth : Nat) (record : NextSignal) :
    Prop where
  ofSignal : record.signal = signal
  ofDepth : record.depth = depth
  first : depth = 1 → record.source = signal
  later : depth ≠ 1 → Records (graph.successors signal (depth - 1)) record.source
  edge : record.target ∈ graph.nextSignals record.source

theorem isRecord_of_successors {record : NextSignal}
    (listed : record ∈ graph.successors signal depth) : IsRecord graph signal depth record := by
  cases depth with
  | zero => cases listed
  | succ index =>
    have ahead : graph.nextSignals signal ≠ [] := by
      intro nothing
      rw [successors, levels_of_nothing nothing] at listed
      cases listed
    rw [successors, levels_of_ahead ahead] at listed
    cases index with
    | zero =>
      rcases List.mem_map.1 listed with ⟨target, direct, rfl⟩
      exact ⟨rfl, rfl, fun _ => rfl, fun later => absurd rfl later, direct⟩
    | succ index =>
      rw [List.getElem?_cons_succ] at listed
      rcases continues_levelsBehind index record listed with ⟨own, deep, source, edge⟩
      refine ⟨own, deep.trans (Nat.add_comm 2 index), nofun, fun _ => ?_, edge⟩
      rw [Nat.add_sub_cancel, successors, levels_of_ahead ahead]
      exact source

/-- The records of a signal are those at their own depth. -/
theorem mem_ahead_iff {record : NextSignal} :
    record ∈ graph.ahead signal ↔ record ∈ graph.successors signal record.depth := by
  constructor
  · intro listed
    rcases List.mem_flatten.1 listed with ⟨level, found, member⟩
    rcases List.mem_iff_getElem?.1 found with ⟨index, place⟩
    have placed : record ∈ graph.successors signal (index + 1) := by
      rw [successors, place]
      exact member
    exact (isRecord_of_successors placed).ofDepth ▸ placed
  · intro placed
    cases depth : record.depth with
    | zero =>
      rw [depth] at placed
      cases placed
    | succ index =>
      rw [depth, successors] at placed
      cases place : (graph.levels signal)[index]? with
      | none =>
        rw [place] at placed
        cases placed
      | some level =>
        rw [place] at placed
        exact List.mem_flatten.2 ⟨level, List.mem_of_getElem? place, placed⟩

/-- A target stands in one record of a signal only. -/
theorem nodup_targets_ahead (distinct : (graph.nextSignals signal).Nodup) :
    ((graph.ahead signal).map NextSignal.target).Nodup := by
  rw [ahead]
  by_cases nothing : graph.nextSignals signal = []
  · rw [levels_of_nothing nothing]
    exact List.nodup_nil
  · rw [levels_of_ahead nothing, List.flatten_cons, List.map_append, targets_directRecords]
    exact List.perm_append_comm.nodup_iff.1 (nodup_levelsBehind_append distinct)

/-! ## Looking levels up by their index -/

/-- The levels once further ones are found, where the level before each of them is looked up
among those found so far; nothing if it is not there. -/
def levelsByIndex (graph : SignalGraph) (signal : String) :
    Nat → (depth : Nat) → (seen : List String) → List (List NextSignal) →
      Option (List (List NextSignal))
  | 0, _, _, found => some found
  | further + 1, depth, seen, found =>
    match found[depth - 2]? with
    | none => none
    | some previous =>
      match fresh seen (graph.stepsFrom previous) with
      | [] => some found
      | steps =>
        levelsByIndex graph signal further (depth + 1) (steps.map Prod.snd ++ seen)
          (found ++ [steps.map fun step => ⟨signal, step.1, step.2, depth⟩])

/-- Where levels up to a depth are found, the one before it is there and the search goes on
from it. -/
theorem levelsByIndex_append (earlier : List (List NextSignal))
    (place : depth = earlier.length + 2) :
    graph.levelsByIndex signal further depth seen (earlier ++ [previous]) =
      some (earlier ++ previous :: graph.levelsBehind signal further depth seen previous) := by
  induction further generalizing depth seen previous earlier with
  | zero => rfl
  | succ further inductionHypothesis =>
    have there : (earlier ++ [previous])[depth - 2]? = some previous := by
      rw [place, Nat.add_sub_cancel, List.getElem?_concat_length]
    rw [levelsByIndex, there]
    dsimp only
    cases level : fresh seen (graph.stepsFrom previous) with
    | nil => rw [levelsBehind_of_nothing level]
    | cons first rest =>
      have next : depth + 1 = (earlier ++ [previous]).length + 2 := by
        rw [place, List.length_append, List.length_singleton]
      rw [levelsBehind_of_found level (List.cons_ne_nil first rest)]
      dsimp only
      rw [inductionHypothesis (earlier ++ [previous]) next, List.append_assoc]
      rfl

/-- The levels of a signal, each one from the level at the index before it. -/
def indexedLevels (graph : SignalGraph) (signal : String) : Option (List (List NextSignal)) :=
  match graph.nextSignals signal with
  | [] => some []
  | targets =>
    graph.levelsByIndex signal (graph.maxDepth - 1) 2 targets [graph.directRecords signal]

theorem indexedLevels_eq (graph : SignalGraph) (signal : String) :
    graph.indexedLevels signal = some (graph.levels signal) := by
  rw [indexedLevels]
  cases targets : graph.nextSignals signal with
  | nil => rw [levels_of_nothing targets]
  | cons first rest =>
    have ahead : graph.nextSignals signal ≠ [] := targets ▸ List.cons_ne_nil first rest
    rw [levels_of_ahead ahead, targets]
    exact levelsByIndex_append [] rfl

/-! ## Graphs of declared edges -/

/-- A signal sees a repeater, being none itself, that has a declared target of it. -/
def Repeats (edges : List (String × String)) (repeaters : List String)
    (signal repeater : String) : Prop :=
  signal ∉ repeaters ∧ repeater ∈ repeaters ∧
    ∃ shared, (signal, shared) ∈ edges ∧ (repeater, shared) ∈ edges

section Build

variable {edges : List (String × String)} {repeaters : List String}

theorem mem_declared : target ∈ declared edges signal ↔ (signal, target) ∈ edges := by
  rw [declared, List.mem_eraseDups, List.mem_map]
  constructor
  · rintro ⟨edge, kept, rfl⟩
    rcases List.mem_filter.1 kept with ⟨listed, own⟩
    exact beq_iff_eq.1 own ▸ listed
  · intro listed
    exact ⟨(signal, target), List.mem_filter.2 ⟨listed, beq_self_eq_true signal⟩, rfl⟩

theorem mem_repeated : target ∈ repeated edges repeaters signal ↔
    Repeats edges repeaters signal target := by
  rw [repeated, Repeats]
  by_cases repeater : repeaters.contains signal = true
  · rw [if_pos repeater]
    constructor
    · intro impossible
      cases impossible
    · rintro ⟨none, _⟩
      exact absurd (List.contains_iff_mem.1 repeater) none
  · rw [if_neg repeater, List.mem_filter, Ascending.mem_ofList]
    simp only [Bool.and_eq_true, List.contains_iff_mem, bne_iff_ne, List.any_eq_true,
      mem_declared]
    have none : signal ∉ repeaters := fun member => repeater (List.contains_iff_mem.2 member)
    constructor
    · rintro ⟨_, ⟨listed, _⟩, shared, other, own⟩
      exact ⟨none, listed, shared, own, other⟩
    · rintro ⟨_, listed, shared, own, other⟩
      refine ⟨List.mem_map.2 ⟨_, other, rfl⟩, ⟨listed, ?_⟩, shared, other, own⟩
      rintro rfl
      exact none listed

theorem mem_directlyAhead : target ∈ directlyAhead edges repeaters signal ↔
    (signal, target) ∈ edges ∨ Repeats edges repeaters signal target := by
  rw [directlyAhead, List.mem_append, List.mem_filter, mem_declared, mem_repeated,
    Bool.not_eq_true', ← Bool.not_eq_true, List.contains_iff_mem, mem_declared]
  constructor
  · rintro (own | ⟨shared, _⟩)
    · exact .inl own
    · exact .inr shared
  · rintro (own | shared)
    · exact .inl own
    · by_cases own : (signal, target) ∈ edges
      · exact .inl own
      · exact .inr ⟨shared, own⟩

/-- A built graph has directly ahead of a signal what the edges say. -/
theorem nextSignals_build (edges : List (String × String)) (repeaters : List String)
    (depth : Nat) (signal : String) :
    (build edges repeaters depth).nextSignals signal = directlyAhead edges repeaters signal := by
  unfold nextSignals build
  cases stored : (Table.ofList _).get? signal with
  | some targets =>
    rcases List.mem_map.1 (Table.mem_of_get?_ofList stored) with ⟨source, _, same⟩
    cases same
    rfl
  | none =>
    -- Whoever has a signal ahead is the source of an edge, and has an entry.
    refine (List.eq_nil_iff_forall_not_mem.2 fun target ahead => ?_).symm
    have source : signal ∈ edges.map Prod.fst := by
      rcases mem_directlyAhead.1 ahead with own | ⟨_, _, shared, own, _⟩
      · exact List.mem_map.2 ⟨_, own, rfl⟩
      · exact List.mem_map.2 ⟨_, own, rfl⟩
    have key := (Table.mem_keys_ofList ((Ascending.ofList (edges.map Prod.fst)).map fun signal =>
      (signal, directlyAhead edges repeaters signal)) signal).2 (by
        rw [List.map_map]
        exact List.mem_map.2 ⟨signal, (Ascending.mem_ofList _ _).2 source, rfl⟩)
    rcases (Table.mem_keys_iff_get? _ _).1 key with ⟨targets, found⟩
    rw [stored] at found
    cases found

theorem nodup_repeated (edges : List (String × String)) (repeaters : List String)
    (signal : String) : (repeated edges repeaters signal).Nodup := by
  rw [repeated]
  split
  · exact List.nodup_nil
  · exact (Ascending.nodup_ofList (edges.map Prod.fst)).filter _

theorem nodup_directlyAhead (edges : List (String × String)) (repeaters : List String)
    (signal : String) : (directlyAhead edges repeaters signal).Nodup := by
  refine List.nodup_append.2
    ⟨Lists.nodup_eraseDups _, (nodup_repeated edges repeaters signal).filter _, ?_⟩
  rintro first own second kept rfl
  have other := (List.mem_filter.1 kept).2
  rw [Bool.not_eq_true', ← Bool.not_eq_true, List.contains_iff_mem] at other
  exact other own

/-! ## The whole closure -/

/-- The records of a built graph are its shortest walks.  Directly ahead of a signal are its
declared targets and the repeaters of them.  At every depth up to the depth of the graph,
which counts as one at least, stand the targets at that distance and no others, beyond it
stands none, and no target stands twice.  Each record tells its signal, its depth and a
target of the depth before from which one step leads on.  And each level can be looked up
where the search needs it. -/
theorem records_stand_at_their_distance (edges : List (String × String))
    (repeaters : List String) (maxDepth : Nat) (signal : String) :
    (∀ target, Records ((build edges repeaters maxDepth).successors signal 1) target ↔
      (signal, target) ∈ edges ∨ Repeats edges repeaters signal target) ∧
    ((build edges repeaters maxDepth).successors signal 1).map NextSignal.target =
      (build edges repeaters maxDepth).nextSignals signal ∧
    (∀ depth target, Records ((build edges repeaters maxDepth).successors signal depth) target ↔
      depth ≤ max 1 maxDepth ∧
        (build edges repeaters maxDepth).IsDistance signal target depth) ∧
    (∀ depth, max 1 maxDepth < depth →
      (build edges repeaters maxDepth).successors signal depth = []) ∧
    (((build edges repeaters maxDepth).ahead signal).map NextSignal.target).Nodup ∧
    (∀ depth record, record ∈ (build edges repeaters maxDepth).successors signal depth →
      IsRecord (build edges repeaters maxDepth) signal depth record) ∧
    (∀ record, record ∈ (build edges repeaters maxDepth).ahead signal ↔
      record ∈ (build edges repeaters maxDepth).successors signal record.depth) ∧
    (build edges repeaters maxDepth).indexedLevels signal =
      some ((build edges repeaters maxDepth).levels signal) := by
  have distinct : ((build edges repeaters maxDepth).nextSignals signal).Nodup := by
    rw [nextSignals_build]
    exact nodup_directlyAhead edges repeaters signal
  refine ⟨fun target => ?_, targets_successors_one _ signal,
    fun depth target => records_successors distinct, fun depth beyond => ?_, nodup_targets_ahead distinct,
    fun depth record => isRecord_of_successors, fun record => mem_ahead_iff,
    indexedLevels_eq _ signal⟩
  · rw [records_successors distinct, isDistance_one, nextSignals_build, mem_directlyAhead]
    exact ⟨fun both => both.2, fun ahead => ⟨Nat.le_max_left 1 maxDepth, ahead⟩⟩
  · refine List.eq_nil_iff_forall_not_mem.2 fun record listed => ?_
    have recorded : Records ((build edges repeaters maxDepth).successors signal depth)
        record.target := List.mem_map_of_mem listed
    exact Nat.not_le_of_lt beyond ((records_successors distinct).1 recorded).1

/-- A loop of three signals, one of which has a target in common with a repeater. -/
def repeatedLoop : List (String × String) :=
  [("A", "B"), ("B", "C"), ("C", "A"), ("R", "C")]

/-- A signal of the loop sees itself after three steps, and nothing new after that. -/
theorem repeated_loop_stands_at_its_distance :
    (build repeatedLoop ["R"] 4).IsDistance "A" "A" 3 ∧
      (build repeatedLoop ["R"] 4).IsDistance "A" "R" 2 ∧
      (build repeatedLoop ["R"] 4).successors "A" 5 = [] := by
  have itself : Records ((build repeatedLoop ["R"] 4).successors "A" 3) "A" := by
    unfold Records
    decide +kernel
  have repeater : Records ((build repeatedLoop ["R"] 4).successors "A" 2) "R" := by
    unfold Records
    decide +kernel
  rcases records_stand_at_their_distance repeatedLoop ["R"] 4 "A" with
    ⟨_, _, recorded, beyond, _⟩
  exact ⟨((recorded 3 "A").1 itself).2, ((recorded 2 "R").1 repeater).2, beyond 5 (by decide)⟩

end Build

end SignalGraph

end SignalBox
