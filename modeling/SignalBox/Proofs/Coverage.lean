import SignalBox.Proofs.Entries
import SignalBox.Proofs.Stages
import SignalBox.Proofs.Targets

namespace SignalBox

/-!
# Where the predicates find an answer

A predicate fails only where it looks for an entry that is not there.  So it has an answer for
every leaf whose object is known and has an entry in the table of its kind.

The states of a run have an entry for every object that is no route and for every defined route,
and for nothing else.  In such a state a leaf has an answer unless its object is a route without
definition, and of the predicates only those matter that look at routes.  For each of these there is
a lemma that says exactly when it succeeds.
-/

/-- An object that is a route is a defined one. -/
def Database.Defines (plant : Database) (id : ObjectId) : Prop :=
  plant.kind id = .ok .route → id ∈ plant.routeIds

/-- A lever whose position a throw-out control may be guarded by. -/
def Database.HasKey (plant : Database) (id : ObjectId) : Prop :=
  plant.kind id = .ok .directionSelfControlLever ∨ plant.kind id = .ok .routeCentralControlLever

theorem Database.defines_iff_of_route {plant : Database} {id : ObjectId}
    (route : plant.kind id = .ok .route) : plant.Defines id ↔ id ∈ plant.routeIds := by
  constructor
  · intro defined
    exact defined route
  · intro listed _
    exact listed

namespace State

/-- The entries of a state are those of the objects and of the defined routes of a plant,
and every button of a defined route is there. -/
structure Covers (state : State) (plant : Database) : Prop where
  route : ∀ id, Succeeds (state.route id) ↔ id ∈ plant.routeIds
  lever : ∀ id, Succeeds (state.lever id) ↔ plant.kind id = .ok .lever
  track : ∀ id, Succeeds (state.track id) ↔ plant.kind id = .ok .trackCircuit
  machine : ∀ id, Succeeds (state.machine id) ↔ plant.kind id = .ok .switchingMachine
  directionRoute : ∀ id, Succeeds (state.directionRoute id) ↔ plant.kind id = .ok .directionRoute
  keyLever : ∀ id, Succeeds (state.keyLever id) ↔ plant.HasKey id
  chrRelay : ∀ id, Succeeds (state.chrRelay id) ↔ plant.kind id = .ok .routeCentralControlLever
  button : ∀ id definition name, plant.route? id = some definition →
    definition.button = some name → Succeeds (state.button name)

theorem covers_initial {plant : Database} (consistent : plant.Consistent)
    (now : Time.Timestamp) : (initial plant now).Covers plant where
  route _ := entry_succeeds.trans mem_routes_initial
  lever _ := entry_succeeds.trans (mem_levers_initial consistent)
  track _ := entry_succeeds.trans (mem_tracks_initial consistent)
  machine _ := entry_succeeds.trans (mem_machines_initial consistent)
  directionRoute _ := entry_succeeds.trans (mem_directionRoutes_initial consistent)
  keyLever _ := entry_succeeds.trans (mem_keyLevers_initial consistent)
  chrRelay _ := entry_succeeds.trans (mem_chrRelays_initial consistent)
  button _ _ _ defined named := entry_succeeds.2 (mem_buttons_initial defined named)

/-- The state has an entry for the object in the table of its kind.  The levers with a key share one
table. -/
def HasEntry (state : State) (id : ObjectId) : ObjectKind → Prop
  | .route => Succeeds (state.route id)
  | .lever => Succeeds (state.lever id)
  | .trackCircuit => Succeeds (state.track id)
  | .switchingMachine => Succeeds (state.machine id)
  | .directionRoute => Succeeds (state.directionRoute id)
  | .directionSelfControlLever => Succeeds (state.keyLever id)
  | .routeCentralControlLever => Succeeds (state.keyLever id)

/-- Entries only depend on the keys of a state. -/
theorem HasEntry.of_sameKeys {state reached : State} {id : ObjectId} {kind : ObjectKind}
    (entry : state.HasEntry id kind) (same : SameKeys reached state) : reached.HasEntry id kind := by
  cases kind with
  | route => exact (entry_succeeds_congr same.routes).2 entry
  | lever => exact (entry_succeeds_congr same.levers).2 entry
  | trackCircuit => exact (entry_succeeds_congr same.tracks).2 entry
  | switchingMachine => exact (entry_succeeds_congr same.machines).2 entry
  | directionRoute => exact (entry_succeeds_congr same.directionRoutes).2 entry
  | directionSelfControlLever | routeCentralControlLever =>
    exact (entry_succeeds_congr same.keyLevers).2 entry

/-- What a state covers only depends on its keys. -/
theorem Covers.of_sameKeys {plant : Database} {state reached : State}
    (covers : state.Covers plant) (same : SameKeys reached state) : reached.Covers plant where
  route id := (entry_succeeds_congr same.routes).trans (covers.route id)
  lever id := (entry_succeeds_congr same.levers).trans (covers.lever id)
  track id := (entry_succeeds_congr same.tracks).trans (covers.track id)
  machine id := (entry_succeeds_congr same.machines).trans (covers.machine id)
  directionRoute id :=
    (entry_succeeds_congr same.directionRoutes).trans (covers.directionRoute id)
  keyLever id := (entry_succeeds_congr same.keyLevers).trans (covers.keyLever id)
  chrRelay id := (entry_succeeds_congr same.chrRelays).trans (covers.chrRelay id)
  button id definition name defined named :=
    (entry_succeeds_congr same.buttons).2 (covers.button id definition name defined named)

end State

namespace Interlocking

/-- The leaves of the condition of an object for a kind of lock. -/
def leavesAt (box : Interlocking) (id : ObjectId) (kind : LockKind) : List Requirement :=
  ((box.locks.clause? id kind).map Condition.leaves).getD []

variable {box : Interlocking} {state : State} {id : ObjectId} {kind : LockKind}

/-! ## Conditions -/

theorem known_of_leavesAt (known : box.locks.Known box.plant) {leaf : Requirement}
    (member : leaf ∈ box.leavesAt id kind) : Succeeds (box.plant.kind leaf.target) := by
  unfold leavesAt at member
  cases stored : box.locks.clause? id kind with
  | none =>
    rw [stored] at member
    cases member
  | some clause =>
    rw [stored] at member
    exact known.clause? stored member

theorem check_succeeds {ask : Requirement → Except Missing Bool} :
    Succeeds (Clause.check ask (box.locks.clause? id kind)) ↔
      ∀ leaf, leaf ∈ box.leavesAt id kind → Succeeds (ask leaf) := by
  unfold leavesAt
  cases box.locks.clause? id kind with
  | none =>
    constructor
    · intro _ leaf impossible
      cases impossible
    · intro _
      exact ⟨true, rfl⟩
  | some clause =>
    constructor
    · intro surveyed leaf member
      exact Condition.ask_succeeds_of_survey surveyed member
    · intro given
      exact Condition.survey_succeeds given

theorem isLocked?_succeeds :
    Succeeds (box.isLocked? state (box.locks.clause? id kind)) ↔
      ∀ leaf, leaf ∈ box.leavesAt id kind → Succeeds (box.isLocking state leaf) := by
  have asked : ∀ leaf, Succeeds (box.isLocking state leaf >>= fun locking => pure !locking) ↔
      Succeeds (box.isLocking state leaf) := fun _ => Fallible.bind_pure_succeeds
  have checked := @check_succeeds box id kind
    fun leaf => box.isLocking state leaf >>= fun locking => pure !locking
  simp only [asked] at checked
  rw [← checked]
  cases box.locks.clause? id kind with
  | none =>
    constructor
    · intro _
      exact ⟨true, rfl⟩
    · intro _
      exact ⟨false, rfl⟩
  | some clause => exact Fallible.bind_pure_succeeds

/-! ## Leaves -/

/-- The object is known, and the state has an entry for it. -/
def Provides (box : Interlocking) (state : State) (id : ObjectId) : Prop :=
  ∃ kind, box.plant.kind id = .ok kind ∧ state.HasEntry id kind

section Leaf

variable {leaf : Requirement}

theorem isTrackClear_succeeds (known : Succeeds (box.plant.kind leaf.target))
    (entry : box.plant.kind leaf.target = .ok .trackCircuit → Succeeds (state.track leaf.target)) :
    Succeeds (box.isTrackClear state leaf) := by
  rcases known with ⟨kind, known⟩
  rw [isTrackClear, Fallible.bind_of_eq_ok known]
  cases kind with
  | trackCircuit => exact Fallible.bind_pure_succeeds.2 (entry known)
  | _ => exact Fallible.pure_succeeds true

theorem isOnSide_succeeds (entry : Succeeds (state.directionRoute leaf.target)) :
    Succeeds (isOnSide state leaf) := by
  unfold isOnSide
  cases leaf.side with
  | none => exact Fallible.pure_succeeds true
  | some side => exact Fallible.bind_pure_succeeds.2 entry

namespace Provides

variable (provided : box.Provides state leaf.target)
include provided

theorem isTrackClear : Succeeds (box.isTrackClear state leaf) := by
  rcases provided with ⟨kind, known, entry⟩
  refine isTrackClear_succeeds ⟨kind, known⟩ fun circuit => ?_
  cases known.symm.trans circuit
  exact entry

theorem isRouteReady : Succeeds (box.isRouteReady state leaf) := by
  have clear := provided.isTrackClear
  rcases provided with ⟨kind, known, entry⟩
  rw [Interlocking.isRouteReady, Fallible.bind_of_eq_ok known]
  cases kind with
  | trackCircuit => exact clear
  | switchingMachine => exact Fallible.bind_pure_succeeds.2 entry
  | directionRoute => exact isOnSide_succeeds entry
  | _ => exact Fallible.pure_succeeds true

theorem isSignalClear : Succeeds (box.isSignalClear state leaf) := by
  have clear := provided.isTrackClear
  rcases provided with ⟨kind, known, entry⟩
  rw [Interlocking.isSignalClear, Fallible.bind_of_eq_ok known]
  cases kind with
  | trackCircuit => exact clear
  | route => exact Fallible.bind_pure_succeeds.2 entry
  | directionRoute => exact isOnSide_succeeds entry
  | _ => exact Fallible.pure_succeeds true

theorem isUnlocked : Succeeds (box.isUnlocked state leaf) := by
  have clear := provided.isTrackClear
  rcases provided with ⟨kind, known, entry⟩
  rw [Interlocking.isUnlocked, Fallible.bind_of_eq_ok known]
  cases kind with
  | trackCircuit => exact clear
  | directionRoute => exact isOnSide_succeeds entry
  | _ => exact Fallible.bind_pure_succeeds.2 entry

theorem isLocking : Succeeds (box.isLocking state leaf) := by
  rcases provided with ⟨kind, known, entry⟩
  unfold Interlocking.isLocking
  split
  · exact Fallible.pure_succeeds false
  · rw [Fallible.bind_of_eq_ok known]
    cases kind with
    | route | trackCircuit => exact Fallible.bind_pure_succeeds.2 entry
    | _ => exact Fallible.pure_succeeds false

theorem isReleased : Succeeds (box.isReleased state leaf) := by
  rcases provided with ⟨kind, known, entry⟩
  rw [Interlocking.isReleased, Fallible.bind_of_eq_ok known]
  cases kind with
  | route => exact Fallible.map_succeeds entry
  | _ => exact Fallible.pure_succeeds true

end Provides

/-! ## Leaves of a covered plant -/

variable (covers : state.Covers box.plant)
include covers

/-- In a state that covers the plant, the only objects without entry are undefined routes. -/
theorem provides_iff {id : ObjectId} (known : Succeeds (box.plant.kind id)) :
    box.Provides state id ↔ box.plant.Defines id := by
  constructor
  · rintro ⟨kind, found, entry⟩ route
    cases found.symm.trans route
    exact (covers.route id).1 entry
  · intro defined
    rcases known with ⟨kind, found⟩
    refine ⟨kind, found, ?_⟩
    cases kind with
    | route => exact (covers.route id).2 (defined found)
    | lever => exact (covers.lever id).2 found
    | trackCircuit => exact (covers.track id).2 found
    | switchingMachine => exact (covers.machine id).2 found
    | directionRoute => exact (covers.directionRoute id).2 found
    | directionSelfControlLever => exact (covers.keyLever id).2 (.inl found)
    | routeCentralControlLever => exact (covers.keyLever id).2 (.inr found)

/-- A question about a route at a leaf has an answer exactly for a defined route. -/
theorem ask_route_succeeds (route : box.plant.kind leaf.target = .ok .route)
    {answer : RouteRelays → Bool} :
    Succeeds (state.route leaf.target >>= fun relays => (pure (answer relays) :
      Except Missing Bool)) ↔ box.plant.Defines leaf.target := by
  rw [Fallible.bind_pure_succeeds, covers.route, Database.defines_iff_of_route route]

variable (known : Succeeds (box.plant.kind leaf.target))
include known

theorem isSignalClear_succeeds :
    Succeeds (box.isSignalClear state leaf) ↔ box.plant.Defines leaf.target := by
  refine ⟨fun answered route => ?_, fun defined =>
    ((provides_iff covers known).2 defined).isSignalClear⟩
  rw [isSignalClear, Fallible.bind_of_eq_ok route] at answered
  exact (ask_route_succeeds covers route).1 answered route

theorem isUnlocked_succeeds :
    Succeeds (box.isUnlocked state leaf) ↔ box.plant.Defines leaf.target := by
  refine ⟨fun answered route => ?_, fun defined =>
    ((provides_iff covers known).2 defined).isUnlocked⟩
  rw [isUnlocked, Fallible.bind_of_eq_ok route] at answered
  exact (ask_route_succeeds covers route).1 answered route

/-- A leaf that is subject to unlocking is not looked at. -/
theorem isLocking_succeeds :
    Succeeds (box.isLocking state leaf) ↔
      (leaf.subjectToUnlock = false → box.plant.Defines leaf.target) := by
  by_cases subject : leaf.subjectToUnlock = true
  · unfold isLocking
    rw [if_pos subject, subject]
    exact iff_of_true (Fallible.pure_succeeds false) nofun
  · rw [Bool.not_eq_true] at subject
    refine ⟨fun answered _ route => ?_, fun defined =>
      ((provides_iff covers known).2 (defined subject)).isLocking⟩
    rw [isLocking, subject, if_neg Bool.false_ne_true, Fallible.bind_of_eq_ok route] at answered
    exact (ask_route_succeeds covers route).1 answered route

end Leaf

end Interlocking

end SignalBox
