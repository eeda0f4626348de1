import SignalBox.Signal.Graph

namespace SignalBox
namespace SignalGraph

/-!
# Walks through the next-signal graph

A walk goes from a signal to one directly ahead of it, step by step.  The records of a
signal are found level by level and name each target once, at its least depth; a walk may
come back to where it was and reach a target by detours.  Nevertheless no walk leads past
the records: up to the depth of the graph every walk of at least one step ends in a target
that is recorded.

What carries the search is that a target that has been seen has either all signals ahead of
it seen as well or stands in the last level found.  A level without new targets therefore
leaves nothing to find, however far the search could still go.
-/

/-- A target is reached from a signal in a number of steps. -/
inductive Walk (graph : SignalGraph) : Nat → String → String → Prop
  | here (signal : String) : Walk graph 0 signal signal
  | step {hops : Nat} {signal next target : String} (first : next ∈ graph.nextSignals signal)
    (rest : Walk graph hops next target) : Walk graph (hops + 1) signal target

variable {graph : SignalGraph} {hops further depth : Nat} {signal via target : String}
  {seen : List String} {previous : List NextSignal}

/-- The records name the target. -/
def Records (records : List NextSignal) (target : String) : Prop :=
  target ∈ records.map NextSignal.target

/-- Whoever is seen has all signals ahead of it seen, or is a target of the last level. -/
def ClosedBehind (graph : SignalGraph) (seen : List String) (previous : List NextSignal) : Prop :=
  ∀ via, via ∈ seen → Records previous via ∨
    ∀ target, target ∈ graph.nextSignals via → target ∈ seen

theorem mem_stepsFrom :
    (via, target) ∈ graph.stepsFrom previous ↔
      Records previous via ∧ target ∈ graph.nextSignals via := by
  simp only [stepsFrom, Records, List.mem_flatMap, List.mem_map, Prod.mk.injEq]
  constructor
  · rintro ⟨record, listed, other, ahead, rfl, rfl⟩
    exact ⟨⟨record, listed, rfl⟩, ahead⟩
  · rintro ⟨⟨record, listed, rfl⟩, ahead⟩
    exact ⟨record, listed, target, ahead, rfl, rfl⟩

/-- The target of a candidate was seen before or is that of a fresh candidate. -/
theorem seen_or_fresh {candidates : List (String × String)}
    (member : target ∈ candidates.map Prod.snd) :
    target ∈ (fresh seen candidates).map Prod.snd ++ seen := by
  induction candidates generalizing seen with
  | nil => cases member
  | cons first rest inductionHypothesis =>
    rw [fresh]
    split
    · next known =>
      rcases List.mem_cons.1 member with rfl | later
      · exact List.mem_append_right _ (List.contains_iff_mem.1 known)
      · exact inductionHypothesis later
    · rcases List.mem_cons.1 member with rfl | later
      · exact List.mem_cons_self
      · have found : target ∈ (fresh (first.2 :: seen) rest).map Prod.snd ++ first.2 :: seen :=
          inductionHypothesis later
        rw [List.mem_append, List.mem_cons] at found
        rw [List.map_cons, List.cons_append, List.mem_cons, List.mem_append]
        rcases found with fresh | same | old
        · exact .inr (.inl fresh)
        · exact .inl same
        · exact .inr (.inr old)

/-- Once a level is found, all signals ahead of what was seen before it are seen. -/
theorem ClosedBehind.covers (closed : ClosedBehind graph seen previous) (known : via ∈ seen)
    (ahead : target ∈ graph.nextSignals via) :
    target ∈ (fresh seen (graph.stepsFrom previous)).map Prod.snd ++ seen := by
  rcases closed via known with recorded | all
  · exact seen_or_fresh (List.mem_map_of_mem (mem_stepsFrom.2 ⟨recorded, ahead⟩))
  · exact List.mem_append_right _ (all target ahead)

/-- A walk does not leave what has everything ahead in it. -/
theorem Walk.mem_of_closed (walk : graph.Walk hops via target)
    (closed : ∀ via, via ∈ seen → ∀ target, target ∈ graph.nextSignals via → target ∈ seen)
    (known : via ∈ seen) : target ∈ seen := by
  induction walk with
  | here signal => exact known
  | step first rest inductionHypothesis => exact inductionHypothesis (closed _ known _ first)

theorem records_append {first second : List NextSignal} :
    Records (first ++ second) target ↔ Records first target ∨ Records second target := by
  rw [Records, List.map_append, List.mem_append]
  rfl

theorem records_level {steps : List (String × String)} :
    Records (steps.map fun step => ⟨signal, step.1, step.2, depth⟩) target ↔
      target ∈ steps.map Prod.snd := by
  rw [Records, List.map_map]
  rfl

theorem levelsBehind_of_found {found : List (String × String)}
    (level : fresh seen (graph.stepsFrom previous) = found) (nonempty : found ≠ []) :
    graph.levelsBehind signal (further + 1) depth seen previous =
      (found.map fun step => ⟨signal, step.1, step.2, depth⟩) ::
        graph.levelsBehind signal further (depth + 1) (found.map Prod.snd ++ seen)
          (found.map fun step => ⟨signal, step.1, step.2, depth⟩) := by
  rw [levelsBehind, level]
  cases found with
  | nil => exact absurd rfl nonempty
  | cons first rest => rfl

/-- The levels behind a level name all targets within their number of steps that are not
seen before. -/
theorem records_levelsBehind_of_walk (closed : ClosedBehind graph seen previous)
    (known : via ∈ seen) (walk : graph.Walk hops via target) (near : hops ≤ further) :
    target ∈ seen ∨
      Records (graph.levelsBehind signal further depth seen previous).flatten target := by
  induction further generalizing depth seen previous hops via with
  | zero =>
    cases walk with
    | here => exact .inl known
    | step first rest => cases near
  | succ further inductionHypothesis =>
    have covered : ∀ via, via ∈ seen → ∀ target, target ∈ graph.nextSignals via →
        target ∈ (fresh seen (graph.stepsFrom previous)).map Prod.snd ++ seen :=
      fun via known target => closed.covers known
    generalize level : fresh seen (graph.stepsFrom previous) = found at covered
    by_cases empty : found = []
    · rw [empty] at covered
      exact .inl (walk.mem_of_closed covered known)
    · cases walk with
      | here => exact .inl known
      | step first rest =>
        have closedNext : ClosedBehind graph (found.map Prod.snd ++ seen)
            (found.map fun step => ⟨signal, step.1, step.2, depth⟩) := by
          intro via known
          rcases List.mem_append.1 known with fresh | old
          · exact .inl (records_level.2 fresh)
          · exact .inr (covered via old)
        rw [levelsBehind_of_found level empty, List.flatten_cons, records_append, records_level]
        rcases inductionHypothesis closedNext (covered via known _ first) rest
          (Nat.le_of_succ_le_succ near) with seenNext | deeper
        · rcases List.mem_append.1 seenNext with fresh | old
          · exact .inr (.inl fresh)
          · exact .inl old
        · exact .inr (.inr deeper)

/-- Every walk of at least one step that is not longer than the depth of the graph ends in
a recorded target.  The targets directly ahead are recorded whatever the depth. -/
theorem records_ahead_of_walk (walk : graph.Walk (hops + 1) signal target)
    (near : hops ≤ graph.maxDepth - 1) : Records (graph.ahead signal) target := by
  cases walk with
  | step first rest =>
    rw [ahead, levels]
    split
    · next empty =>
      rw [empty] at first
      cases first
    · next targets _ =>
      rw [List.flatten_cons, records_append]
      have direct : ∀ other, Records ((graph.nextSignals signal).map fun target =>
          NextSignal.mk signal signal target 1) other ↔ other ∈ graph.nextSignals signal := by
        intro other
        rw [Records, List.map_map]
        exact (List.map_id _).symm ▸ Iff.rfl
      rw [direct]
      refine records_levelsBehind_of_walk (fun via known => ?_) first rest near
      exact .inl ((direct via).2 known)

end SignalGraph

end SignalBox
