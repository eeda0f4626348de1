import SignalBox.Proofs.Stages
import SignalBox.Proofs.Survey

namespace SignalBox

/-!
# What the predicates say

A condition that is found to hold says something definite about its conjuncts: a machine
is settled, a track circuit clear, a route not asked for.  The lemmas below read this off,
one kind of object at a time.

The predicates of the route stage and of the signal-control stage look at the inputs of
the box and at lever relays, and these two stages write neither.  A state therefore gives
the same answers before and after them, which is what `SameView` carries.  Whether a condition
locks is decided by even less, and `SameLocks` is enough for it.
-/

namespace Interlocking

/-- The leaves of the direct lock of a route that it cannot do without. -/
def demands (box : Interlocking) (id : ObjectId) : List Requirement :=
  ((box.locks.clause? id .directLock).map Condition.conjuncts).getD []

variable {box : Interlocking} {state : State} {leaf : Requirement}

theorem mem_demands {id : ObjectId} :
    leaf ∈ box.demands id ↔
      ∃ clause, box.locks.clause? id .directLock = some clause ∧ leaf ∈ clause.conjuncts := by
  unfold demands
  cases box.locks.clause? id .directLock with
  | none => simp
  | some clause => simp

/-! ## Conjuncts of conditions that hold -/

theorem ask_of_demands {ask : Requirement → Except Missing Bool} {id : ObjectId}
    (checked : Clause.check ask (box.locks.clause? id .directLock) = .ok true)
    (demanded : leaf ∈ box.demands id) : ask leaf = .ok true := by
  rcases mem_demands.1 demanded with ⟨clause, stored, member⟩
  rw [stored] at checked
  exact Condition.ask_conjunct_of_survey checked member

/-- Nothing that a condition cannot do without locks while the condition does not. -/
theorem isLocking_of_demands {id : ObjectId}
    (free : box.isLocked? state (box.locks.clause? id .directLock) = .ok false)
    (demanded : leaf ∈ box.demands id) : box.isLocking state leaf = .ok false := by
  rcases mem_demands.1 demanded with ⟨clause, stored, member⟩
  rw [stored] at free
  rcases Fallible.bind_eq_ok.1 free with ⟨value, surveyed, negated⟩
  have holds : value = true := by
    cases value with
    | true => rfl
    | false => cases negated
  subst holds
  have answer := Condition.ask_conjunct_of_survey surveyed member
  rcases Fallible.bind_eq_ok.1 answer with ⟨locking, asked, opposite⟩
  cases locking with
  | false => exact asked
  | true => cases opposite

/-! ## What single leaves say -/

/-- A route that does not lock, and is not exempted from locking, has its lever relay
dropped. -/
theorem lever_of_not_locking (free : box.isLocking state leaf = .ok false)
    (strict : leaf.subjectToUnlock = false) (route : box.plant.kind leaf.target = .ok .route) :
    state.isRaised .lever leaf.target = false := by
  rw [isLocking, strict, if_neg Bool.false_ne_true, Fallible.bind_of_eq_ok route] at free
  rcases Fallible.bind_eq_ok.1 free with ⟨relays, entry, dropped⟩
  rw [State.isRaised_of_route entry]
  exact Except.ok.inj dropped

theorem clear_of_isTrackClear (clear : box.isTrackClear state leaf = .ok true)
    (track : box.plant.kind leaf.target = .ok .trackCircuit) :
    ∃ circuit, state.track leaf.target = .ok circuit ∧
      circuit.occupiedFor state.now leaf.timer = false := by
  rw [isTrackClear, Fallible.bind_of_eq_ok track] at clear
  rcases Fallible.bind_eq_ok.1 clear with ⟨circuit, entry, free⟩
  exact ⟨circuit, entry, Bool.not_eq_eq_eq_not.1 (Except.ok.inj free)⟩

theorem settled_of_isSettled (settled : isSettled state leaf = .ok true) :
    ∃ machine, state.machine leaf.target = .ok machine ∧
      machine.settledAt leaf.position = true := by
  rcases Fallible.bind_eq_ok.1 settled with ⟨machine, entry, still⟩
  exact ⟨machine, entry, Except.ok.inj still⟩

theorem side_of_isOnSide (placed : isOnSide state leaf = .ok true) {side : Side}
    (asked : leaf.side = some side) : state.directionRoute leaf.target = .ok side := by
  unfold isOnSide at placed
  rw [asked] at placed
  rcases Fallible.bind_eq_ok.1 placed with ⟨current, entry, same⟩
  rw [entry, beq_iff_eq.1 (Except.ok.inj same)]

section Unlocked

variable (unlocked : box.isUnlocked state leaf = .ok true)
include unlocked

/-- A route that does not stand in the way of another one has its route relay dropped,
whether or not it is subject to unlocking. -/
theorem dropped_of_isUnlocked (route : box.plant.kind leaf.target = .ok .route) :
    state.isRaised .route leaf.target = false := by
  rw [isUnlocked, Fallible.bind_of_eq_ok route] at unlocked
  rcases Fallible.bind_eq_ok.1 unlocked with ⟨relays, entry, dropped⟩
  rw [State.isRaised_of_route entry]
  exact Bool.not_eq_eq_eq_not.1 (Except.ok.inj dropped)

theorem settled_of_isUnlocked (machine : box.plant.kind leaf.target = .ok .switchingMachine) :
    ∃ machine, state.machine leaf.target = .ok machine ∧
      machine.settledAt leaf.position = true := by
  rw [isUnlocked, Fallible.bind_of_eq_ok machine] at unlocked
  exact settled_of_isSettled unlocked

theorem clear_of_isUnlocked (track : box.plant.kind leaf.target = .ok .trackCircuit) :
    ∃ circuit, state.track leaf.target = .ok circuit ∧
      circuit.occupiedFor state.now leaf.timer = false := by
  rw [isUnlocked, Fallible.bind_of_eq_ok track] at unlocked
  exact clear_of_isTrackClear unlocked track

theorem side_of_isUnlocked (route : box.plant.kind leaf.target = .ok .directionRoute)
    {side : Side} (asked : leaf.side = some side) :
    state.directionRoute leaf.target = .ok side := by
  rw [isUnlocked, Fallible.bind_of_eq_ok route] at unlocked
  exact side_of_isOnSide unlocked asked

end Unlocked

end Interlocking

/-! ## States that look alike -/

/-- Two states in which the same conditions lock: they agree on the clock, on track circuits
and on lever relays. -/
structure State.SameLocks (first second : State) : Prop where
  now : first.now = second.now
  track : ∀ id, first.track id = second.track id
  listed : ∀ id, id ∈ first.routes.keys ↔ id ∈ second.routes.keys
  lever : ∀ id, first.isRaised .lever id = second.isRaised .lever id

namespace State.SameLocks

variable {first second : State} (same : SameLocks first second)
include same

/-- A question about the lever relay of a route has the same answer in both states. -/
theorem lever_answer (id : ObjectId) (answer : Bool → Except Missing Bool) :
    (first.route id >>= fun relays => answer relays.lever) =
      (second.route id >>= fun relays => answer relays.lever) := by
  by_cases listed : id ∈ second.routes.keys
  · have present : Succeeds (first.route id) := State.entry_succeeds.2 ((same.listed id).2 listed)
    have presentLater : Succeeds (second.route id) := State.entry_succeeds.2 listed
    rcases present with ⟨before, firstEntry⟩
    rcases presentLater with ⟨after, secondEntry⟩
    have lever := same.lever id
    rw [State.isRaised_of_route firstEntry, State.isRaised_of_route secondEntry] at lever
    change before.lever = after.lever at lever
    rw [Fallible.bind_of_eq_ok firstEntry, Fallible.bind_of_eq_ok secondEntry, lever]
  · have absent : first.route id = .error (.state .route id) :=
      State.entry_eq_error fun present => listed ((same.listed id).1 present)
    have absentLater : second.route id = .error (.state .route id) :=
      State.entry_eq_error listed
    rw [absent, absentLater]

variable {box : Interlocking}

theorem isTrackClear_eq : box.isTrackClear first = box.isTrackClear second := by
  funext leaf
  simp only [Interlocking.isTrackClear, same.track, same.now]

theorem isLocking_eq : box.isLocking first = box.isLocking second := by
  funext leaf
  have route := same.lever_answer leaf.target pure
  simp only [Interlocking.isLocking, same.track, same.now, route]

theorem isLocked?_eq (found : Option Clause) :
    box.isLocked? first found = box.isLocked? second found := by
  cases found with
  | none => rfl
  | some tree => simp only [Interlocking.isLocked?, Interlocking.isLocked, same.isLocking_eq]

end State.SameLocks

/-- Two states that differ at most in relays other than lever relays. -/
structure State.SameView (first second : State) : Prop where
  now : first.now = second.now
  tracks : first.tracks = second.tracks
  machines : first.machines = second.machines
  directionRoutes : first.directionRoutes = second.directionRoutes
  keys : first.routes.keys = second.routes.keys
  lever : ∀ id, first.isRaised .lever id = second.isRaised .lever id

namespace State.SameView

variable {first second third : State}

theorem trans (left : SameView first second) (right : SameView second third) :
    SameView first third where
  now := left.now.trans right.now
  tracks := left.tracks.trans right.tracks
  machines := left.machines.trans right.machines
  directionRoutes := left.directionRoutes.trans right.directionRoutes
  keys := left.keys.trans right.keys
  lever id := (left.lever id).trans (right.lever id)

/-- A stage that does not write lever relays leaves the view of the predicates. -/
theorem of_effect {stage : Stage} {box : Interlocking} {routes : List ObjectId}
    (effect : Stage.Effect stage box routes first second) (later : stage ≠ .lever) :
    SameView second first := by
  have lever := effect.isRaised_eq .lever (Ne.symm later)
  have rest := effect.rest
  exact {
    now := by rw [rest]
    tracks := by rw [rest]
    machines := by rw [rest]
    directionRoutes := by rw [rest]
    keys := effect.keys
    lever := lever }

variable (same : SameView first second)
include same

theorem sameLocks : SameLocks first second where
  now := same.now
  track id := by rw [State.track, State.track, same.tracks]
  listed id := by rw [same.keys]
  lever := same.lever

variable {box : Interlocking}

theorem isOnSide_eq : Interlocking.isOnSide first = Interlocking.isOnSide second := by
  funext leaf
  simp only [Interlocking.isOnSide, State.directionRoute, same.directionRoutes]

theorem isSettled_eq : Interlocking.isSettled first = Interlocking.isSettled second := by
  funext leaf
  simp only [Interlocking.isSettled, State.machine, same.machines]

theorem isRouteReady_eq : box.isRouteReady first = box.isRouteReady second := by
  funext leaf
  simp only [Interlocking.isRouteReady, same.sameLocks.isTrackClear_eq, same.isSettled_eq,
    same.isOnSide_eq]

theorem isSignalClear_eq : box.isSignalClear first = box.isSignalClear second := by
  funext leaf
  have route := same.sameLocks.lever_answer leaf.target fun raised => pure !raised
  simp only [Interlocking.isSignalClear, same.sameLocks.isTrackClear_eq, same.isOnSide_eq, route]

end State.SameView

end SignalBox
