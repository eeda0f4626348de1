import Mathlib.Data.List.Forall2
import SignalBox.Proofs.Stages

namespace SignalBox

/-!
# Computations side by side

What a part of the state does to a cycle is seen by running the cycle on two states that differ
in this part.  Step by step the two computations either fail alike, or go on with results
whose difference is known.  `Alike` says so for one step, and the lemmas below put steps
together in the ways in which the stages do.

The relation between the results is chosen anew at every step.  Where it is equality, nothing of
the difference between the states has come through.

What differs between two computations may also be an order, of the parts of a condition or of the
routes that are visited.  Then each of them meets its own first fault, and all that can be said is
that both fail.  `Matched` is for these.
-/

namespace Fallible

variable {α β γ δ ε : Type}

/-- Two computations fail with the same fault, or give results that stand in a relation. -/
inductive Alike (relation : α → β → Prop) : Except ε α → Except ε β → Prop
  | failed (fault : ε) : Alike relation (.error fault) (.error fault)
  | found {first : α} {second : β} (related : relation first second) :
      Alike relation (.ok first) (.ok second)

namespace Alike

variable {relation : α → β → Prop} {first : Except ε α} {second : Except ε β}

theorem mono {weaker : α → β → Prop} (alike : Alike relation first second)
    (implied : ∀ value other, relation value other → weaker value other) :
    Alike weaker first second := by
  cases alike with
  | failed fault => exact .failed fault
  | found related => exact .found (implied _ _ related)

theorem succeeds_iff (alike : Alike relation first second) : Succeeds first ↔ Succeeds second := by
  cases alike with
  | failed fault => simp [Succeeds]
  | found related => simp [Succeeds]

theorem related {value : α} {other : β} (alike : Alike relation first second)
    (given : first = .ok value) (givenOther : second = .ok other) : relation value other := by
  subst given givenOther
  cases alike with
  | found related => exact related

theorem of_eq {relation : α → α → Prop} {first second : Except ε α}
    (reflexive : ∀ value, relation value value) (same : first = second) :
    Alike relation first second := by
  subst same
  cases first with
  | error fault => exact .failed fault
  | ok value => exact .found (reflexive value)

/-- Computations with the same results are the same. -/
theorem eq {first second : Except ε α} (alike : Alike Eq first second) : first = second := by
  cases alike with
  | failed fault => rfl
  | found same => rw [same]

theorem bind {outcome : γ → δ → Prop} {next : α → Except ε γ} {other : β → Except ε δ}
    (alike : Alike relation first second)
    (continued : ∀ value follower, relation value follower →
      Alike outcome (next value) (other follower)) :
    Alike outcome (first >>= next) (second >>= other) := by
  cases alike with
  | failed fault => exact .failed fault
  | found related => exact continued _ _ related

/-- After a step that both computations share. -/
theorem bind_same {outcome : γ → δ → Prop} {step : Except ε α} {next : α → Except ε γ}
    {other : α → Except ε δ}
    (continued : ∀ value, step = .ok value → Alike outcome (next value) (other value)) :
    Alike outcome (step >>= next) (step >>= other) := by
  cases step with
  | error fault => exact .failed fault
  | ok value => exact continued value rfl

theorem map {outcome : γ → δ → Prop} {change : α → γ} {other : β → δ}
    (alike : Alike relation first second)
    (changed : ∀ value follower, relation value follower →
      outcome (change value) (other follower)) :
    Alike outcome (first.map change) (second.map other) := by
  cases alike with
  | failed fault => exact .failed fault
  | found related => exact .found (changed _ _ related)

theorem map_same {outcome : γ → δ → Prop} {step : Except ε α} {change : α → γ} {other : α → δ}
    (changed : ∀ value, outcome (change value) (other value)) :
    Alike outcome (step.map change) (step.map other) := by
  cases step with
  | error fault => exact .failed fault
  | ok value => exact .found (changed value)

/-- A traversal is alike where its steps are, item by item. -/
theorem mapM {step : γ → Except ε α} {other : γ → Except ε β} {items : List γ}
    (each : ∀ item, item ∈ items → Alike relation (step item) (other item)) :
    Alike (List.Forall₂ relation) (items.mapM step) (items.mapM other) := by
  induction items with
  | nil => exact .found .nil
  | cons item rest inductionHypothesis =>
    rw [List.mapM_cons, List.mapM_cons]
    refine (each item List.mem_cons_self).bind fun value follower head => ?_
    refine (inductionHypothesis fun later member =>
      each later (List.mem_cons_of_mem item member)).bind fun values followers tail => ?_
    exact .found (.cons head tail)

end Alike

/-- Two computations both fail, with whatever faults, or give results that stand in a relation. -/
inductive Matched (relation : α → β → Prop) : Except ε α → Except ε β → Prop
  | failed (fault other : ε) : Matched relation (.error fault) (.error other)
  | found {first : α} {second : β} (related : relation first second) :
      Matched relation (.ok first) (.ok second)

namespace Matched

variable {relation : α → β → Prop} {first : Except ε α} {second : Except ε β}

theorem succeeds_iff (matched : Matched relation first second) :
    Succeeds first ↔ Succeeds second := by
  cases matched with
  | failed fault other => simp [Succeeds]
  | found related => simp [Succeeds]

theorem exists_of_eq_ok {value : α} (matched : Matched relation first second)
    (given : first = .ok value) : ∃ other, second = .ok other ∧ relation value other := by
  subst given
  cases matched with
  | found related => exact ⟨_, rfl, related⟩

theorem refl (result : Except ε α) : Matched Eq result result := by
  cases result with
  | error fault => exact .failed fault fault
  | ok value => exact .found rfl

/-- Matched computations without difference in their results give the same ones. -/
theorem eq_ok_iff {first second : Except ε α} (matched : Matched Eq first second) {value : α} :
    first = .ok value ↔ second = .ok value := by
  cases matched with
  | failed fault other => exact ⟨nofun, nofun⟩
  | found same => rw [same]

theorem of_eq_ok_iff {first second : Except ε α}
    (same : ∀ value, first = .ok value ↔ second = .ok value) : Matched Eq first second := by
  cases given : first with
  | ok value =>
    rw [(same value).1 given]
    exact .found rfl
  | error fault =>
    cases other : second with
    | error missing => exact .failed fault missing
    | ok value => cases given.symm.trans ((same value).2 other)

theorem trans {further : β → γ → Prop} {whole : α → γ → Prop} {third : Except ε γ}
    (before : Matched relation first second) (after : Matched further second third)
    (composed : ∀ {value other last}, relation value other → further other last →
      whole value last) : Matched whole first third := by
  cases before with
  | failed fault other =>
    cases after with
    | failed _ last => exact .failed fault last
  | found related =>
    cases after with
    | found behind => exact .found (composed related behind)

theorem bind {outcome : γ → δ → Prop} {next : α → Except ε γ} {other : β → Except ε δ}
    (matched : Matched relation first second)
    (continued : ∀ value follower, relation value follower →
      Matched outcome (next value) (other follower)) :
    Matched outcome (first >>= next) (second >>= other) := by
  cases matched with
  | failed fault missing => exact .failed fault missing
  | found related => exact continued _ _ related

/-- After steps that give the same result wherever they give any. -/
theorem bind_eq {outcome : γ → δ → Prop} {first second : Except ε α} {next : α → Except ε γ}
    {other : α → Except ε δ} (matched : Matched Eq first second)
    (continued : ∀ value, Matched outcome (next value) (other value)) :
    Matched outcome (first >>= next) (second >>= other) := by
  refine matched.bind fun value follower same => ?_
  rw [← same]
  exact continued value

theorem map {outcome : γ → δ → Prop} {change : α → γ} {other : β → δ}
    (matched : Matched relation first second)
    (changed : ∀ value follower, relation value follower →
      outcome (change value) (other follower)) :
    Matched outcome (first.map change) (second.map other) := by
  cases matched with
  | failed fault missing => exact .failed fault missing
  | found related => exact .found (changed _ _ related)

/-- A traversal gives the same results where its steps do, item by item. -/
theorem mapM_eq {step other : γ → Except ε α} {items : List γ}
    (each : ∀ item, item ∈ items → Matched Eq (step item) (other item)) :
    Matched Eq (items.mapM step) (items.mapM other) := by
  induction items with
  | nil => exact .found rfl
  | cons item rest inductionHypothesis =>
    rw [List.mapM_cons, List.mapM_cons]
    refine (each item List.mem_cons_self).bind_eq fun value => ?_
    refine (inductionHypothesis fun later member =>
      each later (List.mem_cons_of_mem item member)).bind_eq fun values => ?_
    exact .found rfl

/-- In another order of its items a traversal gives the same results in another order. -/
theorem mapM_perm {step : γ → Except ε α} {items others : List γ} (order : items.Perm others) :
    Matched List.Perm (items.mapM step) (others.mapM step) := by
  induction order with
  | nil => exact .found .nil
  | cons item _ inductionHypothesis =>
    rw [List.mapM_cons, List.mapM_cons]
    refine (Matched.refl (step item)).bind_eq fun value => ?_
    exact inductionHypothesis.bind fun values others same => .found (same.cons value)
  | swap item other rest =>
    simp only [List.mapM_cons]
    generalize step item = first, step other = second, rest.mapM step = behind
    cases first with
    | error fault =>
      cases second with
      | error missing => exact .failed missing fault
      | ok value => exact .failed fault fault
    | ok value =>
      cases second with
      | error missing => exact .failed missing missing
      | ok next =>
        cases behind with
        | error fault => exact .failed fault fault
        | ok values => exact .found (.swap value next values)
  | trans _ _ before after => exact before.trans after List.Perm.trans

end Matched

end Fallible

open Fallible (Alike Matched)

/-- Entries are alike where the tables either both lack the key, or have values under it that
stand in the relation. -/
theorem State.entry_alike {κ α : Type} [DecidableEq κ] {relation : α → α → Prop}
    {table other : Table κ α} {key : κ} {missing : Missing}
    (related : Option.Rel relation (table.get? key) (other.get? key)) :
    Alike relation (entry table key missing) (entry other key missing) := by
  unfold entry
  generalize table.get? key = found, other.get? key = answer at related
  cases related with
  | some related => exact .found related
  | none => exact .failed missing

/-- Stages on two related states give the same results, as long as each stage finds the same
changes in related states and recording a change keeps states related. -/
theorem Stage.performAll_congr {box other : Interlocking} {routes : Stage → List ObjectId}
    {relation : State → State → Prop}
    (sameChanges : ∀ (stage : Stage) first second, relation first second →
      stage.changes box (routes stage) first = stage.changes other (routes stage) second)
    (recorded : ∀ first second change, relation first second →
      relation (first.record change) (second.record change))
    (stages : List Stage) {first second : State} (related : relation first second) :
    relation (performAll box routes first stages).1 (performAll other routes second stages).1 ∧
      (performAll box routes first stages).2 = (performAll other routes second stages).2 := by
  induction stages generalizing first second with
  | nil => exact ⟨related, rfl⟩
  | cons stage later inductionHypothesis =>
    have same := sameChanges stage first second related
    cases computed : stage.changes box (routes stage) first with
    | error missing =>
      rw [performAll_of_error computed, performAll_of_error (same.symm.trans computed)]
      exact ⟨related, rfl⟩
    | ok found =>
      have written : relation (found.foldl State.record first) (found.foldl State.record second) :=
        List.foldl_rel related fun change _ before other => recorded before other change
      rw [performAll_of_changes computed, performAll_of_changes (same.symm.trans computed)]
      rcases inductionHypothesis written with ⟨relatedAfter, sameAfter⟩
      exact ⟨relatedAfter, by rw [sameAfter]⟩

/-- Stages that match each other in every state, and leave the same state where they succeed, go
through the same states.  What they find is related if what they find one by one is. -/
theorem Stage.performAll_matched {box other : Interlocking} {routes others : Stage → List ObjectId}
    {relation : List RelayChange → List RelayChange → Prop} (nothing : relation [] [])
    (joined : ∀ found image later next, relation found image → relation later next →
      relation (found ++ later) (image ++ next))
    (matched : ∀ (stage : Stage) state, Matched relation (stage.changes box (routes stage) state)
      (stage.changes other (others stage) state))
    (written : ∀ (stage : Stage) state found image,
      stage.changes box (routes stage) state = .ok found →
      stage.changes other (others stage) state = .ok image →
      found.foldl State.record state = image.foldl State.record state)
    (stages : List Stage) (state : State) :
    (performAll box routes state stages).1 = (performAll other others state stages).1 ∧
      Matched relation (performAll box routes state stages).2
        (performAll other others state stages).2 := by
  induction stages generalizing state with
  | nil => exact ⟨rfl, .found nothing⟩
  | cons stage later inductionHypothesis =>
    have own := matched stage state
    cases computed : stage.changes box (routes stage) state with
    | error missing =>
      cases computedOther : stage.changes other (others stage) state with
      | error otherMissing =>
        rw [performAll_of_error computed, performAll_of_error computedOther]
        exact ⟨rfl, .failed missing otherMissing⟩
      | ok image =>
        rw [computed, computedOther] at own
        cases own
    | ok found =>
      rcases own.exists_of_eq_ok computed with ⟨image, computedOther, related⟩
      rw [performAll_of_changes computed, performAll_of_changes computedOther,
        written stage state found image computed computedOther]
      rcases inductionHypothesis (image.foldl State.record state) with ⟨same, behind⟩
      exact ⟨same, behind.map fun _ _ => joined found image _ _ related⟩

end SignalBox
