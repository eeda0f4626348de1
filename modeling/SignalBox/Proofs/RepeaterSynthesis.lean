import Mathlib.Data.List.Induction
import SignalBox.Proofs.Lists
import SignalBox.Proofs.ShortestWalks

namespace SignalBox
namespace SignalGraph

/-!
# Synthesis of repeater edges

A built graph is given by what is directly ahead of each signal.  It can also be assembled: the
declared edges are added one at a time to a table, one pass over that table collects the pairs of
a signal and a repeater with a common target, and their edges are added behind the others.  The
two constructions agree.

The pass looks at declared targets only, so an edge that it brings is no ground for another one.
A chain of repeaters shows the difference: a repeater that leads to a repeater is not seen by a
signal that has the latter ahead by synthesis only.
-/

variable {edges : List (String × String)} {repeaters : List String}
  {signal target repeater : String}

/-! ## Declared targets, edge by edge -/

/-- A further edge adds its target behind those of its signal, unless it is one of them. -/
theorem declared_concat (edges : List (String × String)) (edge : String × String)
    (signal : String) :
    declared (edges ++ [edge]) signal =
      declared edges signal ++
        if edge.1 = signal ∧ edge.2 ∉ declared edges signal then [edge.2] else [] := by
  by_cases own : edge.1 = signal
  · have last : (declared (edges ++ [edge]) signal) =
        ((edges.filter fun edge => edge.1 == signal).map Prod.snd ++ [edge.2]).eraseDups := by
      rw [declared, List.filter_append, List.map_append]
      simp [own]
    rw [last, Lists.eraseDups_concat, declared]
    by_cases known : edge.2 ∈ (edges.filter fun edge => edge.1 == signal).map Prod.snd
    · rw [if_pos known, if_neg fun new => new.2 (List.mem_eraseDups.2 known)]
    · rw [if_neg known, if_pos ⟨own, fun listed => known (List.mem_eraseDups.1 listed)⟩]
  · rw [if_neg fun new => own new.1, declared, List.filter_append]
    simp [own, declared]

/-- The declared targets of a signal stand in the order of their first edges. -/
theorem pairwise_declared (edges : List (String × String)) (signal : String) :
    (declared edges signal).Pairwise fun first second =>
      edges.idxOf (signal, first) < edges.idxOf (signal, second) := by
  induction edges using List.reverseRecOn with
  | nil => exact List.Pairwise.nil
  | append_singleton edges edge inductionHypothesis =>
    have earlier : ∀ {target}, target ∈ declared edges signal →
        (edges ++ [edge]).idxOf (signal, target) = edges.idxOf (signal, target) := by
      intro target declares
      rw [List.idxOf_append, if_pos (mem_declared.1 declares)]
    rw [declared_concat, List.pairwise_append]
    refine ⟨?_, ?_, ?_⟩
    · refine inductionHypothesis.imp_of_mem fun first second less => ?_
      rw [earlier first, earlier second]
      exact less
    · split
      · exact List.pairwise_singleton _ _
      · exact List.Pairwise.nil
    · intro first declares last single
      split at single
      · next new =>
        rw [List.mem_singleton.1 single, earlier declares, List.idxOf_append, if_neg]
        · exact Nat.lt_of_lt_of_le (List.idxOf_lt_length_of_mem (mem_declared.1 declares))
            (Nat.le_add_left _ _)
        · exact fun listed => new.2 (mem_declared.2 listed)
      · cases single

/-! ## One edge after another -/

/-- Add the target of an edge behind those of its signal, unless it is one of them. -/
def addEdge (direct : Table String (List String)) (edge : String × String) :
    Table String (List String) :=
  direct.insert edge.1
    (if (direct.listed edge.1).contains edge.2 then direct.listed edge.1
      else direct.listed edge.1 ++ [edge.2])

theorem listed_addEdge (direct : Table String (List String)) (edge : String × String)
    (signal : String) :
    (addEdge direct edge).listed signal =
      direct.listed signal ++
        if edge.1 = signal ∧ edge.2 ∉ direct.listed signal then [edge.2] else [] := by
  rw [addEdge, Table.listed_insert]
  by_cases own : edge.1 = signal
  · subst own
    rw [if_pos rfl]
    by_cases known : edge.2 ∈ direct.listed edge.1
    · rw [if_pos (List.contains_iff_mem.2 known), if_neg fun new => new.2 known, List.append_nil]
    · rw [if_neg fun listed => known (List.contains_iff_mem.1 listed), if_pos ⟨rfl, known⟩]
  · rw [if_neg own, if_neg fun new => own new.1, List.append_nil]

/-- The table of some edges. -/
def direct (edges : List (String × String)) : Table String (List String) :=
  edges.foldl addEdge .empty

theorem direct_concat (edges : List (String × String)) (edge : String × String) :
    direct (edges ++ [edge]) = addEdge (direct edges) edge := by
  rw [direct, List.foldl_append]
  rfl

/-- The table has the declared targets of every signal. -/
theorem listed_direct (edges : List (String × String)) (signal : String) :
    (direct edges).listed signal = declared edges signal := by
  induction edges using List.reverseRecOn with
  | nil => rfl
  | append_singleton edges edge inductionHypothesis =>
    rw [direct_concat, listed_addEdge, declared_concat, inductionHypothesis]

theorem mem_keys_direct : signal ∈ (direct edges).keys ↔ signal ∈ edges.map Prod.fst := by
  induction edges using List.reverseRecOn with
  | nil => exact Iff.rfl
  | append_singleton edges edge inductionHypothesis =>
    rw [direct_concat, addEdge, Table.mem_keys_insert, inductionHypothesis, List.map_append,
      List.mem_append, List.map_singleton, List.mem_singleton, or_comm]

/-! ## One pass over the table -/

/-- Each signal, being no repeater, with each repeater that has a target in common with it. -/
def synthesized (direct : Table String (List String)) (repeaters : List String) :
    List (String × String) :=
  ((Ascending.ofList direct.keys).filter repeaters.contains).flatMap fun repeater =>
    ((Ascending.ofList direct.keys).filter fun other =>
      other != repeater && !repeaters.contains other &&
        (direct.listed other).any (direct.listed repeater).contains).map fun other =>
      (other, repeater)

/-- What is paired with one of some distinct names is paired with it once. -/
private theorem filter_pairs {names : List String} (distinct : names.Nodup)
    (signal repeater : String) :
    ((names.map fun other => (other, repeater)).filter fun edge => edge.1 == signal).map Prod.snd =
      if signal ∈ names then [repeater] else [] := by
  have own : (names.map fun other => (other, repeater)).filter (fun edge => edge.1 == signal) =
      (names.filter fun other => other == signal).map fun other => (other, repeater) :=
    List.filter_map
  rw [own, List.filter_beq, distinct.count]
  split <;> rfl

/-- The pass brings each signal its repeaters, in their order. -/
theorem synthesized_direct (edges : List (String × String)) (repeaters : List String)
    (signal : String) :
    ((synthesized (direct edges) repeaters).filter fun edge => edge.1 == signal).map Prod.snd =
      repeated edges repeaters signal := by
  have names : Ascending.ofList (direct edges).keys = Ascending.ofList (edges.map Prod.fst) :=
    Ascending.ofList_congr fun name => mem_keys_direct
  rw [synthesized, List.filter_flatMap, List.map_flatMap, names]
  simp only [filter_pairs ((Ascending.nodup_ofList (edges.map Prod.fst)).filter _)]
  rw [Lists.flatMap_ite, List.filter_filter, repeated]
  simp only [listed_direct]
  by_cases own : repeaters.contains signal = true
  · rw [if_pos own]
    refine List.filter_eq_nil_iff.2 fun repeater _ kept => ?_
    simp [List.contains_iff_mem.1 own] at kept
  · rw [if_neg own]
    refine List.filter_congr fun repeater _ => ?_
    have none : signal ∉ repeaters := fun listed => own (List.contains_iff_mem.2 listed)
    rw [Bool.eq_iff_iff]
    simp only [Bool.and_eq_true, decide_eq_true_eq, List.mem_filter,
      Ascending.mem_ofList, bne_iff_ne, Bool.not_eq_true', ← Bool.not_eq_true,
      List.contains_iff_mem, List.any_eq_true, mem_declared]
    constructor
    · rintro ⟨⟨_, ⟨other, _⟩, shared, target, same⟩, listed⟩
      exact ⟨⟨listed, Ne.symm other⟩, shared, same, target⟩
    · rintro ⟨⟨listed, other⟩, shared, same, target⟩
      exact ⟨⟨List.mem_map_of_mem target, ⟨Ne.symm other, none⟩, shared, target, same⟩, listed⟩

/-! ## The assembled graph -/

/-- The graph with the edges of one pass added behind the declared ones. -/
def assembled (edges : List (String × String)) (repeaters : List String) (maxDepth : Nat) :
    SignalGraph where
  maxDepth := maxDepth
  next := (synthesized (direct edges) repeaters).foldl addEdge (direct edges)

theorem nextSignals_assembled (edges : List (String × String)) (repeaters : List String)
    (maxDepth : Nat) (signal : String) :
    (assembled edges repeaters maxDepth).nextSignals signal =
      directlyAhead edges repeaters signal := by
  have whole : (synthesized (direct edges) repeaters).foldl addEdge (direct edges) =
      direct (edges ++ synthesized (direct edges) repeaters) := List.foldl_append.symm
  change ((synthesized (direct edges) repeaters).foldl addEdge (direct edges)).listed signal = _
  rw [whole, listed_direct, declared, List.filter_append, List.map_append, List.eraseDups_append,
    synthesized_direct, List.removeAll,
    Lists.eraseDups_of_nodup ((nodup_repeated edges repeaters signal).filter _)]
  refine congrArg _ (List.filter_congr fun repeater _ => ?_)
  rw [List.elem_eq_contains, Bool.eq_iff_iff]
  simp [declared]

/-! ## Levels -/

/-- The levels of a signal depend on the signals directly ahead and on the depth only. -/
theorem levels_congr {first second : SignalGraph} (depth : first.maxDepth = second.maxDepth)
    (same : ∀ signal, first.nextSignals signal = second.nextSignals signal) (signal : String) :
    first.levels signal = second.levels signal := by
  have steps : ∀ level, first.stepsFrom level = second.stepsFrom level := by
    intro level
    simp only [stepsFrom, same]
  have behind : ∀ further depth seen previous,
      first.levelsBehind signal further depth seen previous =
        second.levelsBehind signal further depth seen previous := by
    intro further
    induction further with
    | zero => exact fun _ _ _ => rfl
    | succ further inductionHypothesis =>
      intro depth seen previous
      simp only [levelsBehind, steps, inductionHypothesis]
  simp only [levels, same, depth, behind]

theorem levels_assembled (edges : List (String × String)) (repeaters : List String)
    (maxDepth : Nat) (signal : String) :
    (assembled edges repeaters maxDepth).levels signal =
      (build edges repeaters maxDepth).levels signal := by
  have same : ∀ other, (assembled edges repeaters maxDepth).nextSignals other =
      (build edges repeaters maxDepth).nextSignals other := by
    intro other
    rw [nextSignals_assembled, nextSignals_build]
  have depth : (assembled edges repeaters maxDepth).maxDepth =
      (build edges repeaters maxDepth).maxDepth := rfl
  exact levels_congr depth same signal

/-! ## What is directly ahead -/

/-- Two lists of names are the declared targets of a signal and the repeaters that it has ahead
besides them. -/
structure Synthesis (edges : List (String × String)) (repeaters : List String) (signal : String)
    (targets shared : List String) : Prop where
  nodup : (targets ++ shared).Nodup
  target_iff : ∀ target, target ∈ targets ↔ (signal, target) ∈ edges
  /-- The targets stand in the order of their first edges. -/
  first_seen : targets.Pairwise fun first second =>
    edges.idxOf (signal, first) < edges.idxOf (signal, second)
  shared_iff : ∀ repeater, repeater ∈ shared ↔
    signal ∉ repeaters ∧ repeater ∈ repeaters ∧ repeater ≠ signal ∧ (signal, repeater) ∉ edges ∧
      ∃ target, (repeater, target) ∈ edges ∧ (signal, target) ∈ edges
  ascending : shared.Pairwise (· < ·)

theorem mem_shared_iff :
    repeater ∈ (repeated edges repeaters signal).filter
        (fun repeater => !(declared edges signal).contains repeater) ↔
      signal ∉ repeaters ∧ repeater ∈ repeaters ∧ repeater ≠ signal ∧ (signal, repeater) ∉ edges ∧
        ∃ target, (repeater, target) ∈ edges ∧ (signal, target) ∈ edges := by
  rw [List.mem_filter, mem_repeated, Bool.not_eq_true', ← Bool.not_eq_true, List.contains_iff_mem,
    mem_declared]
  constructor
  · rintro ⟨⟨none, listed, target, own, other⟩, new⟩
    refine ⟨none, listed, ?_, new, target, other, own⟩
    rintro rfl
    exact none listed
  · rintro ⟨none, listed, _, new, target, other, own⟩
    exact ⟨⟨none, listed, target, own, other⟩, new⟩

theorem synthesis_directlyAhead (edges : List (String × String)) (repeaters : List String)
    (signal : String) :
    Synthesis edges repeaters signal (declared edges signal)
      ((repeated edges repeaters signal).filter fun repeater =>
        !(declared edges signal).contains repeater) where
  nodup := nodup_directlyAhead edges repeaters signal
  target_iff := fun target => mem_declared
  first_seen := pairwise_declared edges signal
  shared_iff := fun repeater => mem_shared_iff
  ascending := by
    refine List.Pairwise.filter _ ?_
    rw [repeated]
    split
    · exact List.Pairwise.nil
    · exact (Ascending.pairwise_ofList (edges.map Prod.fst)).filter _

/-- The first records of a signal are those of its declared targets, in the order of their first
edges, and behind them those of the repeaters that share one of them.  A repeater has its
declared targets only, and a signal without declared targets has nothing ahead at any depth.
Adding the edges of one pass behind the declared ones gives the same records. -/
theorem repeater_synthesis_is_exact (edges : List (String × String)) (repeaters : List String)
    (maxDepth : Nat) (signal : String) :
    (∃ targets shared, Synthesis edges repeaters signal targets shared ∧
      (build edges repeaters maxDepth).successors signal 1 =
        (targets ++ shared).map fun target => ⟨signal, signal, target, 1⟩) ∧
    (signal ∈ repeaters → ∀ target,
      Records ((build edges repeaters maxDepth).successors signal 1) target →
        (signal, target) ∈ edges) ∧
    ((∀ target, (signal, target) ∉ edges) →
      ∀ depth, (build edges repeaters maxDepth).successors signal depth = []) ∧
    (assembled edges repeaters maxDepth).levels signal =
      (build edges repeaters maxDepth).levels signal := by
  refine ⟨⟨_, _, synthesis_directlyAhead edges repeaters signal, ?_⟩, ?_, ?_,
    levels_assembled edges repeaters maxDepth signal⟩
  · rw [successors_one, directRecords, nextSignals_build]
    rfl
  · intro own target recorded
    rw [successors_one, Records, targets_directRecords, nextSignals_build,
      mem_directlyAhead] at recorded
    rcases recorded with declares | ⟨none, _⟩
    · exact declares
    · exact absurd own none
  · intro undeclared depth
    have nothing : (build edges repeaters maxDepth).nextSignals signal = [] := by
      rw [nextSignals_build]
      refine List.eq_nil_iff_forall_not_mem.2 fun target ahead => ?_
      rcases mem_directlyAhead.1 ahead with own | ⟨_, _, shared, own, _⟩
      · exact undeclared target own
      · exact undeclared shared own
    cases depth with
    | zero => rfl
    | succ depth =>
      rw [successors, levels_of_nothing nothing]
      rfl

/-- A signal and a repeater with a common target, and a repeater that leads to that repeater. -/
def chainedRepeaters : List (String × String) :=
  [("Z", "Y"), ("R", "Y"), ("Q", "R")]

/-- The signal sees the first repeater; that it does brings it no target in common with the
second one.  The target itself has nothing ahead. -/
theorem chained_repeaters_are_not_followed :
    (build chainedRepeaters ["Q", "R"] 4).successors "Z" 1 =
        [⟨"Z", "Z", "Y", 1⟩, ⟨"Z", "Z", "R", 1⟩] ∧
      (build chainedRepeaters ["Q", "R"] 4).nextSignals "R" = ["Y"] ∧
      ¬ Records ((build chainedRepeaters ["Q", "R"] 4).successors "Z" 1) "Q" ∧
      (build chainedRepeaters ["Q", "R"] 4).successors "Y" 2 = [] := by
  rcases repeater_synthesis_is_exact chainedRepeaters ["Q", "R"] 4 "Z" with
    ⟨⟨targets, shared, synthesis, records⟩, _⟩
  rcases repeater_synthesis_is_exact chainedRepeaters ["Q", "R"] 4 "Y" with ⟨_, _, nothing, _⟩
  refine ⟨by decide +kernel, by decide +kernel, ?_, nothing (fun target => ?_) 2⟩
  · intro recorded
    rw [Records, records, List.map_map, Function.comp_def, List.map_id', List.mem_append,
      synthesis.target_iff, synthesis.shared_iff] at recorded
    simp [chainedRepeaters] at recorded
  · simp [chainedRepeaters]

end SignalGraph

end SignalBox
