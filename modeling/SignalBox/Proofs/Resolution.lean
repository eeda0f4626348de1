import SignalBox.Proofs.Parts
import SignalBox.Proofs.Targets

namespace SignalBox

/-!
# The meaning of resolved conditions

A cell that resolves keeps its connectives, and every name in it gives way to the conjunction of
what the name stands for.  So its resolution is a substitution, and what resolution does to the
value, the leaves and the parts of a condition is what substitution does to them.

That no connective loses all of its parts is a matter of the names alone.  A name that stands
for several objects brings a conjunction with it; one that stood for none would bring an empty
one, which always holds.  No strategy finds nothing without saying so.
-/

open Notation (Reference Tree)

/-! ## Parts under substitution -/

namespace Condition

variable {α β : Type}

/-- The condition is a conjunction or a disjunction without parts. -/
def isVoid : Condition α → Bool
  | all [] => true
  | any [] => true
  | _ => false

section Substitution

variable {image : α → Condition β} {tree : Condition α}

/-- A part stays a part. -/
theorem Inside.substitute {part : Condition α} (inside : part.Inside tree) :
    (part.substitute image).Inside (tree.substitute image) := by
  induction inside with
  | whole => exact .whole _
  | all listed _ inductionHypothesis =>
    exact .all (mem_substituteIn.2 ⟨_, listed, rfl⟩) inductionHypothesis
  | any listed _ inductionHypothesis =>
    exact .any (mem_substituteIn.2 ⟨_, listed, rfl⟩) inductionHypothesis
  | not _ inductionHypothesis => exact .not inductionHypothesis

theorem Inside.mem_leaves {part : Condition α} (inside : part.Inside tree) {leaf : α}
    (member : leaf ∈ part.leaves) : leaf ∈ tree.leaves := by
  induction inside with
  | whole => exact member
  | all listed _ inductionHypothesis => exact mem_leavesOf.2 ⟨_, listed, inductionHypothesis⟩
  | any listed _ inductionHypothesis => exact mem_leavesOf.2 ⟨_, listed, inductionHypothesis⟩
  | not _ inductionHypothesis => exact inductionHypothesis

/-- The parts of a condition after a substitution are its parts before, with the substitution
made in them, and the parts of what is put in. -/
theorem inside_substitute {part : Condition β} (inside : part.Inside (tree.substitute image)) :
    (∃ source : Condition α, source.Inside tree ∧ source.substitute image = part) ∨
      ∃ leaf ∈ tree.leaves, part.Inside (image leaf) := by
  induction tree using induction with
  | leaf condition => exact .inr ⟨condition, List.mem_singleton_self condition, inside⟩
  | all parts inductionHypothesis =>
    cases inside with
    | whole => exact .inl ⟨_, .whole _, rfl⟩
    | all listed deeper =>
      rcases mem_substituteIn.1 listed with ⟨between, own, rfl⟩
      rcases inductionHypothesis between own deeper with ⟨source, within, same⟩ | ⟨leaf, found, put⟩
      · exact .inl ⟨source, .all own within, same⟩
      · exact .inr ⟨leaf, mem_leavesOf.2 ⟨between, own, found⟩, put⟩
  | any parts inductionHypothesis =>
    cases inside with
    | whole => exact .inl ⟨_, .whole _, rfl⟩
    | any listed deeper =>
      rcases mem_substituteIn.1 listed with ⟨between, own, rfl⟩
      rcases inductionHypothesis between own deeper with ⟨source, within, same⟩ | ⟨leaf, found, put⟩
      · exact .inl ⟨source, .any own within, same⟩
      · exact .inr ⟨leaf, mem_leavesOf.2 ⟨between, own, found⟩, put⟩
  | not negated inductionHypothesis =>
    cases inside with
    | whole => exact .inl ⟨_, .whole _, rfl⟩
    | not deeper =>
      rcases inductionHypothesis deeper with ⟨source, within, same⟩ | ⟨leaf, found, put⟩
      · exact .inl ⟨source, .not within, same⟩
      · exact .inr ⟨leaf, found, put⟩

/-- Parts do not get lost. -/
theorem isVoid_substitute (filled : ∀ leaf ∈ tree.leaves, (image leaf).isVoid = false) :
    (tree.substitute image).isVoid = tree.isVoid := by
  cases tree with
  | leaf condition => exact filled condition (List.mem_singleton_self condition)
  | all parts => cases parts <;> rfl
  | any parts => cases parts <;> rfl
  | not part => rfl

end Substitution

/-- The conjunction of several leaves has no part without parts. -/
theorem isVoid_inside_conjunction {values : List α} (nonempty : values ≠ []) {part : Condition α}
    (inside : part.Inside (conjunction (values.map leaf))) : part.isVoid = false := by
  unfold conjunction at inside
  split at inside
  · rename_i whole single
    rcases List.map_eq_singleton_iff.1 single with ⟨own, rfl, rfl⟩
    cases inside
    rfl
  · cases inside with
    | whole =>
      cases values with
      | nil => exact absurd rfl nonempty
      | cons value rest => rfl
    | all listed deeper =>
      rcases List.mem_map.1 listed with ⟨own, _, rfl⟩
      cases deeper
      rfl

end Condition

/-! ## Resolution -/

namespace Database

variable {plant : Database} {column : LockColumn}

theorem targets_ne_nil {reference : Reference} {targets : List ObjectId}
    (found : plant.targets column reference = .ok targets) : targets ≠ [] := by
  rcases Strategy.exists_finds_of_firstOf found with ⟨strategy, _, finds⟩
  exact finds.ne_nil

/-- What stands in the resolution of a condition for a name with these targets. -/
def standIn (plant : Database) (reference : Reference) (targets : List ObjectId) : Clause :=
  .conjunction ((targets.map (plant.requirement reference)).map .leaf)

theorem holds_standIn (value : Requirement → Bool) (reference : Reference)
    (targets : List ObjectId) : (plant.standIn reference targets).holds value =
      targets.all fun target => value (plant.requirement reference target) := by
  rw [standIn, Condition.holds_conjunction, List.all_map]
  rfl

theorem leaves_standIn (reference : Reference) (targets : List ObjectId) :
    (plant.standIn reference targets).leaves = targets.map (plant.requirement reference) :=
  Condition.leaves_conjunction_leaf _

theorem isVoid_inside_standIn {reference : Reference} {targets : List ObjectId}
    (found : plant.targets column reference = .ok targets) {part : Clause}
    (inside : part.Inside (plant.standIn reference targets)) : part.isVoid = false := by
  refine Condition.isVoid_inside_conjunction (fun empty => ?_) inside
  exact targets_ne_nil found (List.map_eq_nil_iff.1 empty)

variable {found : Reference → List ObjectId} {tree : Tree}

/-- A condition whose names have targets resolves to the substitution of what stands for them. -/
theorem resolve_eq_substitute
    (given : ∀ reference ∈ tree.leaves, plant.targets column reference = .ok (found reference)) :
    plant.resolve column tree =
      .ok (tree.substitute fun reference => plant.standIn reference (found reference)) := by
  apply Condition.expand_eq_substitute
  intro reference listed
  exact Fallible.map_eq_ok.2 ⟨found reference, given reference listed, rfl⟩

/-- A condition resolves exactly where each of its names does. -/
theorem resolve_succeeds_iff :
    Succeeds (plant.resolve column tree) ↔
      ∀ reference ∈ tree.leaves, Succeeds (plant.targets column reference) :=
  FailsFirst.succeeds_iff fun _ => resolve_eq_error

theorem exists_targets_of_resolve {clause : Clause}
    (resolved : plant.resolve column tree = .ok clause) :
    ∃ found : Reference → List ObjectId,
      (∀ reference ∈ tree.leaves, plant.targets column reference = .ok (found reference)) ∧
        clause = tree.substitute fun reference => plant.standIn reference (found reference) := by
  rcases Fallible.exists_results (resolve_succeeds_iff.1 ⟨clause, resolved⟩) with ⟨found, given⟩
  rw [resolve_eq_substitute given] at resolved
  exact ⟨found, given, (Except.ok.inj resolved).symm⟩

/-- The parts of a condition that resolves do so, too, and none of them loses all of its parts. -/
theorem exists_resolve_of_inside {clause : Clause}
    (resolved : plant.resolve column tree = .ok clause) {part : Tree} (inside : part.Inside tree) :
    ∃ own : Clause, plant.resolve column part = .ok own ∧ own.Inside clause ∧
      own.isVoid = part.isVoid := by
  rcases exists_targets_of_resolve resolved with ⟨found, given, rfl⟩
  have targeted : ∀ reference ∈ part.leaves,
      plant.targets column reference = .ok (found reference) := fun reference listed =>
    given reference (inside.mem_leaves listed)
  refine ⟨_, resolve_eq_substitute targeted, inside.substitute, ?_⟩
  exact Condition.isVoid_substitute fun reference listed =>
    isVoid_inside_standIn (targeted reference listed) (.whole _)

/-- What is void in the resolution of a condition was so before. -/
theorem exists_isVoid_of_resolve {clause : Clause}
    (resolved : plant.resolve column tree = .ok clause) {own : Clause} (inside : own.Inside clause)
    (void : own.isVoid = true) :
    ∃ part : Tree, part.Inside tree ∧ part.isVoid = true ∧
      plant.resolve column part = .ok own := by
  rcases exists_targets_of_resolve resolved with ⟨found, given, rfl⟩
  rcases Condition.inside_substitute inside with ⟨part, within, rfl⟩ | ⟨reference, listed, put⟩
  · rcases exists_resolve_of_inside resolved within with ⟨other, resolves, _, same⟩
    have targeted := resolve_eq_substitute fun reference listed =>
      given reference (within.mem_leaves listed)
    cases targeted.symm.trans resolves
    exact ⟨part, within, same.symm.trans void, targeted⟩
  · rw [isVoid_inside_standIn (given reference listed) put] at void
    cases void

/-- A condition resolves exactly if each of its names has targets, and otherwise the leftmost name
without decides the error.  Where it resolves, the result has the value of the condition with
each name read as a demand on all of its targets, its leaves are these demands in the order of
the names, and each part of the condition resolves to a part of it that is void only if the part
was; nothing else in it is void. -/
theorem resolution_preserves_meaning (plant : Database) (column : LockColumn) (tree : Tree) :
    (Succeeds (plant.resolve column tree) ↔
      ∀ reference ∈ tree.leaves, Succeeds (plant.targets column reference)) ∧
    (∀ (before : List Reference) (reference : Reference) (after : List Reference)
      (error : ResolveError), tree.leaves = before ++ reference :: after →
      (∀ earlier ∈ before, Succeeds (plant.targets column earlier)) →
      plant.targets column reference = .error error → plant.resolve column tree = .error error) ∧
    ∀ clause : Clause, plant.resolve column tree = .ok clause →
      ∃ found : Reference → List ObjectId,
        (∀ reference ∈ tree.leaves, plant.targets column reference = .ok (found reference)) ∧
        (∀ demand : Requirement → Bool, (clause.evaluate (m := Id) demand).run =
          (tree.evaluate (m := Id) fun reference => (found reference).all fun target =>
            demand (plant.requirement reference target)).run) ∧
        clause.leaves = tree.leaves.flatMap (fun reference =>
          (found reference).map (plant.requirement reference)) ∧
        (∀ part : Tree, part.Inside tree → ∃ own : Clause,
          plant.resolve column part = .ok own ∧ own.Inside clause ∧ own.isVoid = part.isVoid) ∧
        ∀ own : Clause, own.Inside clause → own.isVoid = true →
          ∃ part : Tree, part.Inside tree ∧ part.isVoid = true ∧
            plant.resolve column part = .ok own := by
  refine ⟨resolve_succeeds_iff, ?_, fun clause resolved => ?_⟩
  · intro before reference after error split passed failed
    exact resolve_eq_error.2
      (FailsFirst.iff_exists.2 ⟨before, reference, after, split, passed, failed⟩)
  · rcases exists_targets_of_resolve resolved with ⟨found, given, substituted⟩
    refine ⟨found, given, fun demand => ?_, ?_, fun _ => exists_resolve_of_inside resolved,
      fun _ => exists_isVoid_of_resolve resolved⟩
    · rw [substituted, Condition.run_evaluate, Condition.run_evaluate, Condition.holds_substitute]
      simp only [holds_standIn]
      rfl
    · rw [substituted, Condition.leaves_substitute]
      simp only [leaves_standIn]

/-- A lever with two routes, and a track circuit. -/
def forkedPlant : Database where
  objects := [⟨1, "TH71_1", .lever, "TH71"⟩, ⟨10, "TH71_1RA", .route, "TH71"⟩,
    ⟨11, "TH71_1RB", .route, "TH71"⟩, ⟨20, "TH71_3T", .trackCircuit, "TH71"⟩]
  definitions := [⟨10, some 1, some "TH71_AP", none⟩, ⟨11, some 1, some "TH71_BP", none⟩]

/-- The track circuit, or not both it and the start of a route, which stands for two of them. -/
def forkedTree : Tree :=
  .any [.leaf ⟨"3T", "TH71", false, false, none⟩,
    .not (.all [.leaf ⟨"3T", "TH71", false, false, none⟩,
      .leaf ⟨"1R", "TH71", true, false, some 30⟩])]

def forkedClause : Clause :=
  .any [.leaf ⟨20, none, none, none, false⟩,
    .not (.all [.leaf ⟨20, none, none, none, false⟩,
      .all [.leaf ⟨10, some .reversed, none, some 30, false⟩,
        .leaf ⟨11, some .reversed, none, some 30, false⟩]])]

/-- Two names that stand for nothing. -/
def lostTree : Tree :=
  .any [.leaf ⟨"3T", "TH71", false, false, none⟩,
    .not (.all [.leaf ⟨"8T", "TH71", false, false, none⟩]),
    .leaf ⟨"9T", "TH71", false, false, none⟩]

/-- The start of the two routes brings a conjunction with it, and of the two names the first one
is reported. -/
theorem forked_tree_keeps_its_meaning :
    forkedPlant.resolve .directLock forkedTree = .ok forkedClause ∧
      (∃ found : Reference → List ObjectId, ∀ demand : Requirement → Bool,
        (forkedClause.evaluate (m := Id) demand).run =
          (forkedTree.evaluate (m := Id) fun reference => (found reference).all fun target =>
            demand (forkedPlant.requirement reference target)).run) ∧
      lostTree.leaves = [⟨"3T", "TH71", false, false, none⟩] ++
        ⟨"8T", "TH71", false, false, none⟩ :: [⟨"9T", "TH71", false, false, none⟩] ∧
      forkedPlant.resolve .directLock lostTree = .error (.unresolved "8T" "TH71") := by
  have resolved : forkedPlant.resolve .directLock forkedTree = .ok forkedClause := by
    decide +kernel
  rcases resolution_preserves_meaning forkedPlant .directLock forkedTree with ⟨_, _, meaning⟩
  rcases meaning forkedClause resolved with ⟨found, _, value, _⟩
  refine ⟨resolved, ⟨found, value⟩, rfl, ?_⟩
  refine (resolution_preserves_meaning forkedPlant .directLock lostTree).2.1 _ _ _ _ rfl ?_ ?_
  · decide +kernel
  · decide +kernel

end Database

end SignalBox
