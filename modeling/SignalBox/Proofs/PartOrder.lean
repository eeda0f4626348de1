import SignalBox.Proofs.Backing
import SignalBox.Proofs.LeverFindings
import SignalBox.Proofs.RowOrder
import SignalBox.Proofs.SideBySide

namespace SignalBox

/-!
# The order of the parts of a condition

A condition says the same in whatever order the parts of its conjunctions and alternatives stand.
`Reordered` is about the trees: it allows another order at every node, at any depth.  `Agrees` is
about what the trees say, and this is all that a cycle gets to see of a lock table: surveys ask every
leaf and so succeed or fail together, and the walk over the leaves of a direct lock only tests
whether all of them are released.

The order does decide which leaf is asked first, and with it the fault of a survey that fails.  So
cycles with reordered tables are compared by their results; where they fail, they fail in the same
stage and leave the same state.
-/

open Fallible (Matched)

namespace Condition

variable {α ε : Type}

/-- Two conditions differ in nothing but the order of the parts of conjunctions and
alternatives. -/
inductive Reordered : Condition α → Condition α → Prop
  | leaf (value : α) : Reordered (.leaf value) (.leaf value)
  | all {parts images others : List (Condition α)} (each : List.Forall₂ Reordered parts images)
      (order : images.Perm others) : Reordered (.all parts) (.all others)
  | any {parts images others : List (Condition α)} (each : List.Forall₂ Reordered parts images)
      (order : images.Perm others) : Reordered (.any parts) (.any others)
  | not {part image : Condition α} (inner : Reordered part image) :
      Reordered (.not part) (.not image)

namespace Reordered

/-- Parts that are reordered one by one stand in every relation in which each part stands to its
reorderings. -/
private theorem forall₂_of_each {relation : Condition α → Condition α → Prop}
    {parts images : List (Condition α)} (each : List.Forall₂ Reordered parts images)
    (known : ∀ part, part ∈ parts → ∀ {image}, part.Reordered image → relation part image) :
    List.Forall₂ relation parts images := by
  have both := (List.forall₂_and_left parts images).2
    ⟨fun part listed => @known part listed, each⟩
  exact both.imp fun part image own => own.1 own.2

private theorem map_eq_of_each {β : Type} {read : Condition α → β}
    {parts images : List (Condition α)} (each : List.Forall₂ Reordered parts images)
    (known : ∀ part, part ∈ parts → ∀ {image}, part.Reordered image → read part = read image) :
    parts.map read = images.map read := by
  rw [← List.forall₂_eq_eq_eq, List.forall₂_map_left_iff, List.forall₂_map_right_iff]
  exact forall₂_of_each each known

private theorem leavesOf_perm_of_each {parts images : List (Condition α)}
    (each : List.Forall₂ Reordered parts images)
    (known : ∀ part, part ∈ parts → ∀ {image}, part.Reordered image →
      part.leaves.Perm image.leaves) : (leavesOf parts).Perm (leavesOf images) := by
  rw [leavesOf_eq, leavesOf_eq, List.flatMap_def, List.flatMap_def]
  apply List.Perm.flatten_congr
  rw [List.forall₂_map_left_iff, List.forall₂_map_right_iff]
  exact forall₂_of_each each known

theorem refl (tree : Condition α) : tree.Reordered tree := by
  induction tree using induction with
  | leaf value => exact .leaf value
  | all parts inductionHypothesis => exact .all (List.forall₂_same.2 inductionHypothesis) (.refl _)
  | any parts inductionHypothesis => exact .any (List.forall₂_same.2 inductionHypothesis) (.refl _)
  | not part inductionHypothesis => exact .not inductionHypothesis

/-- The parts of an alternative in another order. -/
theorem any_of_perm {parts others : List (Condition α)} (order : parts.Perm others) :
    Reordered (.any parts) (.any others) :=
  .any (List.forall₂_same.2 fun part _ => refl part) order

variable {tree other : Condition α} (reordered : tree.Reordered other)
include reordered

theorem holds_eq (value : α → Bool) : tree.holds value = other.holds value := by
  induction tree using induction generalizing other with
  | leaf condition =>
    cases reordered
    rfl
  | all parts inductionHypothesis =>
    cases reordered with
    | all each order =>
      have values := map_eq_of_each each inductionHypothesis
      have conjunction := congrArg (List.all · id) values
      simp only [List.all_map] at conjunction
      rw [holds, holds, holdsAll_eq, holdsAll_eq, ← order.all_eq]
      exact conjunction
  | any parts inductionHypothesis =>
    cases reordered with
    | any each order =>
      have values := map_eq_of_each each inductionHypothesis
      have disjunction := congrArg (List.any · id) values
      simp only [List.any_map] at disjunction
      rw [holds, holds, holdsAny_eq, holdsAny_eq, ← order.any_eq]
      exact disjunction
  | not part inductionHypothesis =>
    cases reordered with
    | not inner => rw [holds, holds, inductionHypothesis inner]

theorem leaves_perm : tree.leaves.Perm other.leaves := by
  induction tree using induction generalizing other with
  | leaf condition =>
    cases reordered
    rfl
  | all parts inductionHypothesis =>
    cases reordered with
    | all each order =>
      refine (leavesOf_perm_of_each each inductionHypothesis).trans ?_
      rw [leavesOf_eq, leaves, leavesOf_eq]
      exact order.flatMap_right leaves
  | any parts inductionHypothesis =>
    cases reordered with
    | any each order =>
      refine (leavesOf_perm_of_each each inductionHypothesis).trans ?_
      rw [leavesOf_eq, leaves, leavesOf_eq]
      exact order.flatMap_right leaves
  | not part inductionHypothesis =>
    cases reordered with
    | not inner =>
      rw [leaves, leaves]
      exact inductionHypothesis inner

end Reordered

end Condition

/-! ## Conditions and tables that agree -/

namespace Clause.Agrees

variable {first second : Clause} (agrees : Agrees first second)
include agrees

theorem holds_eq (value : Requirement → Bool) : first.holds value = second.holds value := by
  have same := agrees.value fun leaf => value leaf
  rw [Condition.run_evaluate, Condition.run_evaluate] at same
  exact same

/-- Conditions that agree have the same surveys, up to the fault where some leaf has no answer. -/
theorem survey_matched {ε : Type} (ask : Requirement → Except ε Bool) :
    Matched Eq (first.survey ask) (second.survey ask) := by
  refine .of_eq_ok_iff fun value => ?_
  rw [Condition.survey_eq_ok, Condition.survey_eq_ok, agrees.holds_eq]
  simp only [agrees.leaves.mem_iff]

end Clause.Agrees

theorem Condition.Reordered.agrees {tree other : Clause} (reordered : tree.Reordered other) :
    tree.Agrees other where
  value ask := by rw [run_evaluate, run_evaluate, reordered.holds_eq]
  leaves := reordered.leaves_perm

/-- Conditions stay reordered when further ones are joined to them. -/
theorem Condition.Reordered.join {stored other tree image : Clause}
    (reordered : stored.Reordered other) (further : tree.Reordered image) :
    (Clause.join stored tree).Reordered (Clause.join other image) := by
  have wrapped : (Condition.all [stored, tree]).Reordered (.all [other, image]) :=
    .all (.cons reordered (.cons further .nil)) (.refl _)
  cases reordered with
  | leaf value => exact wrapped
  | any each order => exact wrapped
  | not inner => exact wrapped
  | all each order =>
    exact .all (List.rel_append each (.cons further .nil)) (order.append_right [image])

namespace LockTable

/-- The conditions of two tables differ in nothing but the order of parts, and their approach locks
end in the same track circuits. -/
structure Reordered (table other : LockTable) : Prop where
  clauses : ∀ object kind,
    List.Forall₂ Condition.Reordered (table.clausesOf object kind) (other.clausesOf object kind)
  finalTracks : ∀ route, table.finalTrack? route = other.finalTrack? route

/-- Two tables say the same about routes and machines.  Route locks are not in question: there are
several alternatives of one, and a cycle does not look at them. -/
structure Agrees (table other : LockTable) : Prop where
  clause : ∀ object kind, kind ≠ .routeLock →
    Option.Rel Clause.Agrees (table.clause? object kind) (other.clause? object kind)
  finalTrack : ∀ route, table.finalTrack? route = other.finalTrack? route

theorem Reordered.refl (table : LockTable) : table.Reordered table where
  clauses _ _ := List.forall₂_same.2 fun tree _ => .refl tree
  finalTracks _ := rfl

/-- Further conditions may come in another order of their parts as well. -/
theorem Reordered.insert {table other : LockTable} {tree image : Clause}
    (reordered : table.Reordered other) (further : Condition.Reordered tree image)
    (object : ObjectId) (kind : LockKind) :
    (table.insert object kind tree).Reordered (other.insert object kind image) where
  clauses key of := by
    have stored := reordered.clauses object kind
    have grown : List.Forall₂ Condition.Reordered
        (extend kind (table.clausesOf object kind) tree)
        (extend kind (other.clausesOf object kind) image) := by
      unfold extend
      split
      · exact List.rel_append stored (.cons further .nil)
      · generalize table.clausesOf object kind = trees, other.clausesOf object kind = images
          at stored
        cases stored with
        | nil => exact .cons further .nil
        | cons first _ => exact .cons (first.join further) .nil
    unfold clausesOf LockTable.insert
    rw [Table.get?_insert, Table.get?_insert]
    split
    · exact grown
    · exact reordered.clauses key of
  finalTracks := reordered.finalTracks

theorem Reordered.agrees {table other : LockTable} (reordered : table.Reordered other) :
    table.Agrees other where
  clause object kind _ := by
    have each := reordered.clauses object kind
    unfold clause?
    generalize table.clausesOf object kind = parts, other.clausesOf object kind = images at each
    cases each with
    | nil => exact .none
    | cons first _ => exact .some first.agrees
  finalTrack := reordered.finalTracks

namespace Agrees

variable {plant : Database} {state : State} {table other : LockTable} {id : ObjectId}
  {kind : LockKind} {current : RouteRelays} {sources : List ObjectId} {unlocked requested : Bool}
  (agrees : table.Agrees other)
include agrees

theorem check_matched (ask : Requirement → Except Missing Bool) (id : ObjectId)
    (merged : kind ≠ .routeLock) :
    Matched Eq (Clause.check ask (table.clause? id kind))
      (Clause.check ask (other.clause? id kind)) := by
  have same := agrees.clause id kind merged
  generalize table.clause? id kind = tree, other.clause? id kind = image at same
  cases same with
  | none => exact .refl _
  | some same => exact same.survey_matched ask

theorem isLocked?_matched (id : ObjectId) (merged : kind ≠ .routeLock) :
    Matched Eq (Interlocking.isLocked? ⟨plant, table⟩ state (table.clause? id kind))
      (Interlocking.isLocked? ⟨plant, other⟩ state (other.clause? id kind)) := by
  have same := agrees.clause id kind merged
  generalize table.clause? id kind = tree, other.clause? id kind = image at same
  cases same with
  | none => exact .refl _
  | some same => exact (same.survey_matched _).bind_eq fun free => .refl _

/-! ## The lever stage -/

theorem request_eq (definition : RouteDefinition) :
    Interlocking.request ⟨plant, table⟩ state id definition current unlocked =
      Interlocking.request ⟨plant, other⟩ state id definition current unlocked := by
  unfold Interlocking.request Interlocking.throwOutX
  dsimp only
  rw [agrees.finalTrack]
  rfl

/-- The routes of a direct lock are looked up one by one, but it only matters whether all of them
are released. -/
theorem throwOutYs_matched (xr : Bool) :
    Matched Eq (Interlocking.throwOutYs ⟨plant, table⟩ state id current sources xr)
      (Interlocking.throwOutYs ⟨plant, other⟩ state id current sources xr) := by
  have leaves : (((table.clause? id .directLock).map Condition.leaves).getD []).Perm
      (((other.clause? id .directLock).map Condition.leaves).getD []) := by
    have same := agrees.clause id .directLock (by decide)
    generalize table.clause? id .directLock = tree, other.clause? id .directLock = image at same
    cases same with
    | none => exact .nil
    | some same => exact same.leaves
  refine (Matched.mapM_perm leaves).bind fun released others order => ?_
  refine (Matched.refl _).bind_eq fun idle => ?_
  refine (agrees.check_matched _ id (by decide)).bind_eq fun approach => ?_
  rw [order.all_eq]
  cases current.throwOutYs with
  | false => exact .refl _
  | true => exact (agrees.check_matched _ id (by decide)).bind_eq fun signal => .refl _

theorem throwOutRelays_matched :
    Matched Eq
      (Interlocking.throwOutRelays ⟨plant, table⟩ state id current sources unlocked requested)
      (Interlocking.throwOutRelays ⟨plant, other⟩ state id current sources unlocked requested) := by
  unfold Interlocking.throwOutRelays
  by_cases none : sources.isEmpty = true
  · rw [if_pos none, if_pos none]
    exact .refl _
  · rw [if_neg none, if_neg none]
    refine (Matched.refl _).bind_eq fun xr => ?_
    exact (agrees.throwOutYs_matched xr).bind_eq fun ys => .refl _

theorem stationRelays_matched (definition : RouteDefinition) :
    Matched Eq (Interlocking.stationRelays ⟨plant, table⟩ state id definition current unlocked)
      (Interlocking.stationRelays ⟨plant, other⟩ state id definition current unlocked) := by
  rw [Interlocking.stationRelays_eq, Interlocking.stationRelays_eq, agrees.request_eq]
  refine (Matched.refl _).bind_eq fun request => ?_
  refine (Matched.refl _).bind_eq fun sources => ?_
  refine (Matched.refl _).bind_eq fun targets => ?_
  exact agrees.throwOutRelays_matched.bind_eq fun held => .refl _

theorem leverRelays_matched :
    Matched Eq (Interlocking.leverRelays ⟨plant, table⟩ state id current)
      (Interlocking.leverRelays ⟨plant, other⟩ state id current) := by
  refine (Matched.refl _).bind_eq fun definition => ?_
  refine (agrees.isLocked?_matched id (by decide)).bind_eq fun locked => ?_
  refine (Matched.refl _).bind_eq fun central => ?_
  cases central with
  | true => exact .refl _
  | false => exact agrees.stationRelays_matched definition

/-! ## Stages and cycles -/

theorem next_matched (stage : Stage) :
    Matched Eq (stage.next ⟨plant, table⟩ state id current)
      (stage.next ⟨plant, other⟩ state id current) := by
  have locked : Matched Eq
      (Interlocking.isLocked? ⟨plant, table⟩ state (table.clause? id .directLock))
      (Interlocking.isLocked? ⟨plant, other⟩ state (other.clause? id .directLock)) :=
    agrees.isLocked?_matched id (by decide)
  cases stage with
  | lever => exact agrees.leverRelays_matched.map fun _ _ same => by rw [same]
  | route =>
    refine (agrees.check_matched _ id (by decide)).bind_eq fun unlocked => ?_
    refine (agrees.check_matched _ id (by decide)).bind_eq fun ready => ?_
    exact locked.bind_eq fun locked => .refl _
  | signalControl =>
    refine (agrees.check_matched _ id (by decide)).bind_eq fun clear => ?_
    exact locked.bind_eq fun locked => .refl _

theorem changes_matched (stage : Stage) (routes : List ObjectId) (state : State) :
    Matched Eq (stage.changes ⟨plant, table⟩ routes state)
      (stage.changes ⟨plant, other⟩ routes state) := by
  refine (Matched.mapM_eq fun id _ => ?_).map fun _ _ same => congrArg List.flatten same
  rw [Stage.changesOf_eq, Stage.changesOf_eq]
  refine (Matched.refl _).bind_eq fun current => ?_
  exact (agrees.next_matched stage).bind_eq fun relays => .refl _

theorem sweep_matched (plant : Database) (state : State) :
    (Interlocking.sweep ⟨plant, table⟩ state).1 = (Interlocking.sweep ⟨plant, other⟩ state).1 ∧
      Matched Eq (Interlocking.sweep ⟨plant, table⟩ state).2
        (Interlocking.sweep ⟨plant, other⟩ state).2 := by
  have performed := @Stage.performAll_matched ⟨plant, table⟩ ⟨plant, other⟩
    (fun _ => plant.routeIds) (fun _ => plant.routeIds) Eq rfl
    (fun _ _ _ _ same behind => by rw [same, behind])
    (fun stage state => agrees.changes_matched stage plant.routeIds state)
    (fun stage state found image computed computedOther => ?_) Stage.order state
  · exact ⟨performed.1, performed.2.map fun _ _ same => by rw [same]⟩
  · have same := (agrees.changes_matched stage plant.routeIds state).eq_ok_iff.1 computed
    rw [same] at computedOther
    cases computedOther
    rfl

end Agrees

/-- Tables built from the same rows in different orders make the same cycles as well, as long as the
approach locks end in the same track circuits. -/
theorem row_order_keeps_cycles {plant : Database} {config : EngineConfig}
    {rows others : List LockRow} {table other : LockTable} (reordered : rows.Perm others)
    (built : (build plant config rows).2 = .ok table)
    (rebuilt : (build plant config others).2 = .ok other)
    (ends : ∀ route, table.finalTrack? route = other.finalTrack? route) (state : State) :
    (Interlocking.sweep ⟨plant, table⟩ state).1 = (Interlocking.sweep ⟨plant, other⟩ state).1 ∧
      Matched Eq (Interlocking.sweep ⟨plant, table⟩ state).2
        (Interlocking.sweep ⟨plant, other⟩ state).2 := by
  have agrees : table.Agrees other :=
    ⟨fun object _ merged => clause?_agrees_of_perm reordered built rebuilt object merged, ends⟩
  exact agrees.sweep_matched plant state

end LockTable

namespace Interlocking

/-- Two lock tables that differ in the order of parts make the same cycles: these succeed with the
same report or fail together, and leave the same state.  They lock the same machines, and single
conditions that differ in this way lock alike. -/
theorem part_order_keeps_cycles (plant : Database) (state : State) {table other : LockTable}
    (reordered : table.Reordered other) :
    (Succeeds (sweep ⟨plant, table⟩ state).2 ↔ Succeeds (sweep ⟨plant, other⟩ state).2) ∧
    (∀ final report, sweep ⟨plant, table⟩ state = (final, .ok report) ↔
      sweep ⟨plant, other⟩ state = (final, .ok report)) ∧
    (sweep ⟨plant, table⟩ state).1 = (sweep ⟨plant, other⟩ state).1 ∧
    (∀ machine locked, isDetectorLocked ⟨plant, table⟩ state machine = .ok locked ↔
      isDetectorLocked ⟨plant, other⟩ state machine = .ok locked) ∧
    ∀ tree image, Condition.Reordered tree image → ∀ locked,
      isLocked ⟨plant, table⟩ state tree = .ok locked ↔
        isLocked ⟨plant, other⟩ state image = .ok locked := by
  have agrees := reordered.agrees
  rcases agrees.sweep_matched plant state with ⟨sameState, matched⟩
  refine ⟨matched.succeeds_iff, fun final report => ?_, sameState, fun machine locked => ?_,
    fun tree image further locked => ?_⟩
  · rw [Prod.ext_iff, Prod.ext_iff, sameState, matched.eq_ok_iff]
  · exact (agrees.isLocked?_matched machine (by decide)).eq_ok_iff
  · exact ((further.agrees.survey_matched _).bind_eq fun free => .refl _).eq_ok_iff

/-- A direct lock with alternatives, and a detector section of two. -/
def singleForwards : LockTable :=
  (LockTable.insert {} 10 .directLock
    (.all [.leaf { target := 20, direction := some .normal },
      .any [.leaf { target := 30 }, .not (.leaf { target := 20 })]])).insert 20 .detector
    (.any [.leaf { target := 30 }, .leaf { target := 10 }])

/-- The same conditions with all their parts turned around. -/
def singleBackwards : LockTable :=
  (LockTable.insert {} 10 .directLock
    (.all [.any [.not (.leaf { target := 20 }), .leaf { target := 30 }],
      .leaf { target := 20, direction := some .normal }])).insert 20 .detector
    (.any [.leaf { target := 10 }, .leaf { target := 30 }])

theorem single_forwards_and_backwards :
    singleForwards.Reordered singleBackwards ∧ ∃ final report,
      sweep ⟨single.plant, singleForwards⟩ singleThrown = (final, .ok report) ∧
      sweep ⟨single.plant, singleBackwards⟩ singleThrown = (final, .ok report) ∧
      final.isRaised .signalControl 10 = true := by
  have reordered : singleForwards.Reordered singleBackwards := by
    refine ((LockTable.Reordered.refl {}).insert (.all (.cons (.refl _) (.cons
      (.any_of_perm (.swap _ _ _)) .nil)) (.swap _ _ _)) 10 .directLock).insert
        (.any_of_perm (.swap _ _ _)) 20 .detector
  have succeeds : Succeeds (sweep ⟨single.plant, singleForwards⟩ singleThrown).2 := by decide
  have raised : (sweep ⟨single.plant, singleForwards⟩ singleThrown).1.isRaised .signalControl 10 =
    true := by decide
  rcases succeeds with ⟨report, done⟩
  have swept : sweep ⟨single.plant, singleForwards⟩ singleThrown =
      ((sweep ⟨single.plant, singleForwards⟩ singleThrown).1, .ok report) := Prod.ext rfl done
  exact ⟨reordered, _, report, swept,
    ((part_order_keeps_cycles single.plant singleThrown reordered).2.1 _ report).1 swept, raised⟩

/-- In a state without routes and track circuits each of the two misses what stands first in its
detector lock. -/
example :
    isDetectorLocked ⟨single.plant, singleForwards⟩ { singleThrown with routes := {}, tracks := {} }
        20 ≠
      isDetectorLocked ⟨single.plant, singleBackwards⟩
        { singleThrown with routes := {}, tracks := {} } 20 := by
  decide

end Interlocking

end SignalBox
