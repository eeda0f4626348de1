import SignalBox.Proofs.Entries

namespace SignalBox

/-!
# Writing changes of relays

What a list of changes does to the relays of one route only depends on the changes of that
route.  A list that names every relay in which two settings differ, and names it with its
value in the second one, leads from the first to the second.  It does not matter in which
order the changes stand or whether one of them is repeated.
-/

/-- Give the relay of a change its new value. -/
def RelayChange.write (relays : RouteRelays) (change : RelayChange) : RouteRelays :=
  change.relay.set relays change.raised

namespace RouteRelays

/-- Relays are equal when the six that a cycle writes are, and the two inputs beside
them. -/
theorem ext_relays {first second : RouteRelays}
    (written : ∀ relay, Relay.get first relay = Relay.get second relay)
    (ctc : first.ctc = second.ctc) (routeLock : first.routeLock = second.routeLock) :
    first = second := by
  have lever := written .lever
  have route := written .route
  have signalControl := written .signalControl
  have xr := written .throwOutXr
  have ys := written .throwOutYs
  have x := written .throwOutX
  cases first
  cases second
  simp only [Relay.get] at lever route signalControl xr ys x ctc routeLock
  subst lever route signalControl xr ys x ctc routeLock
  rfl

end RouteRelays

namespace RelayChange

theorem write_ctc (relays : RouteRelays) (change : RelayChange) :
    (write relays change).ctc = relays.ctc := by
  unfold write
  cases change.relay <;> rfl

theorem write_routeLock (relays : RouteRelays) (change : RelayChange) :
    (write relays change).routeLock = relays.routeLock := by
  unfold write
  cases change.relay <;> rfl

/-- Changes to the values of a setting lead to it once they cover all differences. -/
theorem foldl_write {changes : List RelayChange} {current next : RouteRelays}
    (values : ∀ change, change ∈ changes → change.raised = Relay.get next change.relay)
    (complete : ∀ relay, Relay.get current relay ≠ Relay.get next relay →
      ∃ change, change ∈ changes ∧ change.relay = relay)
    (ctc : current.ctc = next.ctc) (routeLock : current.routeLock = next.routeLock) :
    changes.foldl write current = next := by
  induction changes generalizing current with
  | nil =>
    refine RouteRelays.ext_relays (fun relay => ?_) ctc routeLock
    by_cases same : Relay.get current relay = Relay.get next relay
    · exact same
    · rcases complete relay same with ⟨change, impossible, _⟩
      cases impossible
  | cons change rest inductionHypothesis =>
    rw [List.foldl_cons]
    apply inductionHypothesis
    · intro other member
      exact values other (List.mem_cons_of_mem change member)
    · intro relay different
      have got : Relay.get (write current change) relay =
          if change.relay = relay then change.raised else Relay.get current relay :=
        Relay.get_set current change.raised change.relay relay
      by_cases same : change.relay = relay
      · rw [got, if_pos same, values change List.mem_cons_self, same] at different
        exact absurd rfl different
      · rw [got, if_neg same] at different
        rcases complete relay different with ⟨other, member, named⟩
        rcases List.mem_cons.1 member with first | later
        · exact absurd (first ▸ named) same
        · exact ⟨other, later, named⟩
    · rw [write_ctc, ctc]
    · rw [write_routeLock, routeLock]

/-- The relays in the order in which a stage names them. -/
def order : List Relay :=
  [.throwOutX, .throwOutXr, .throwOutYs, .lever, .route, .signalControl]

/-- The changes that lead from one setting of the relays of a route to another. -/
def differences (route : ObjectId) (current next : RouteRelays) : List RelayChange :=
  order.flatMap fun relay => between route current relay (relay.get next)

theorem differences_eq (route : ObjectId) (current next : RouteRelays) :
    differences route current next =
      between route current .throwOutX next.throwOutX ++
        between route current .throwOutXr next.throwOutXr ++
        between route current .throwOutYs next.throwOutYs ++
        between route current .lever next.lever ++
        between route current .route next.route ++
        between route current .signalControl next.signalControl := by
  simp only [differences, order, List.flatMap_cons, List.flatMap_nil, List.append_nil,
    List.append_assoc]
  rfl

theorem mem_differences {route : ObjectId} {current next : RouteRelays} {change : RelayChange} :
    change ∈ differences route current next ↔
      change.route = route ∧ change.raised = Relay.get next change.relay ∧
        Relay.get current change.relay ≠ Relay.get next change.relay := by
  have everyRelay : ∀ relay : Relay, relay ∈ order := by
    intro relay
    cases relay <;> decide
  unfold differences between
  rw [List.mem_flatMap]
  constructor
  · rintro ⟨relay, _, found⟩
    by_cases same : Relay.get current relay = Relay.get next relay
    · rw [if_pos same] at found
      cases found
    · rw [if_neg same] at found
      rw [List.mem_singleton.1 found]
      exact ⟨rfl, rfl, same⟩
  · rintro ⟨own, value, different⟩
    refine ⟨change.relay, everyRelay change.relay, ?_⟩
    rw [if_neg different, ← own, ← value]
    exact List.mem_singleton_self _

end RelayChange

namespace State

/-- Whether a relay of a route is raised; without an entry none is. -/
def isRaised (state : State) (relay : Relay) (id : ObjectId) : Bool :=
  (state.routes.get? id).any fun relays => relay.get relays

theorem isRaised_of_route {state : State} {id : ObjectId} {relays : RouteRelays}
    (found : state.route id = .ok relays) (relay : Relay) :
    state.isRaised relay id = relay.get relays := by
  rw [isRaised, entry_eq_ok.1 found]
  rfl

theorem exists_of_isRaised {state : State} {relay : Relay} {id : ObjectId}
    (raised : state.isRaised relay id = true) :
    ∃ relays, state.route id = .ok relays ∧ relay.get relays = true := by
  unfold isRaised at raised
  rw [Option.any_eq_true] at raised
  rcases raised with ⟨relays, found, value⟩
  exact ⟨relays, entry_eq_ok.2 found, value⟩

/-- Whether a relay is raised for some route of a list. -/
theorem any_isRaised_iff {state : State} {relay : Relay} {ids : List ObjectId} {values : List Bool}
    (traversed : ids.mapM (fun id => (state.route id).map relay.get) = .ok values) :
    values.any (fun value => value) = true ↔ ∃ id, id ∈ ids ∧ state.isRaised relay id = true := by
  rw [Fallible.any_of_mapM traversed]
  refine exists_congr fun id => and_congr_right fun _ => ?_
  constructor
  · rintro ⟨value, own, rfl⟩
    rcases Fallible.map_eq_ok.1 own with ⟨relays, entered, raised⟩
    exact (isRaised_of_route entered relay).trans raised
  · intro raised
    rcases exists_of_isRaised raised with ⟨relays, entered, value⟩
    exact ⟨true, Fallible.map_eq_ok.2 ⟨relays, entered, value⟩, rfl⟩

/-! ## Committing -/

/-- Changes of routes that have an entry are written to the last one. -/
theorem commit_eq {state : State} {changes : List RelayChange}
    (present : ∀ change, change ∈ changes → change.route ∈ state.routes.keys) :
    state.commit changes = (changes.foldl record state, none) := by
  induction changes generalizing state with
  | nil => rfl
  | cons change rest inductionHypothesis =>
    have first := (Table.contains_iff_mem_keys _ _).2 (present change List.mem_cons_self)
    rw [commit, if_pos first, List.foldl_cons]
    apply inductionHypothesis
    intro other member
    rw [record, Table.keys_modify]
    exact present other (List.mem_cons_of_mem change member)

theorem foldl_record_rest (state : State) (changes : List RelayChange) :
    changes.foldl record state =
      { state with routes := (changes.foldl record state).routes } := by
  induction changes generalizing state with
  | nil => rfl
  | cons change rest inductionHypothesis =>
    rw [List.foldl_cons, inductionHypothesis]
    rfl

theorem keys_foldl_record (state : State) (changes : List RelayChange) :
    (changes.foldl record state).routes.keys = state.routes.keys := by
  induction changes generalizing state with
  | nil => rfl
  | cons change rest inductionHypothesis =>
    rw [List.foldl_cons, inductionHypothesis, record, Table.keys_modify]

/-- A route only sees the changes that name it. -/
theorem get?_foldl_record (state : State) (changes : List RelayChange) (id : ObjectId) :
    (changes.foldl record state).routes.get? id =
      (state.routes.get? id).map fun relays =>
        (changes.filter fun change => change.route == id).foldl RelayChange.write relays := by
  induction changes generalizing state with
  | nil => simp
  | cons change rest inductionHypothesis =>
    rw [List.foldl_cons, inductionHypothesis, record, Table.get?_modify, Option.map_map]
    apply congrFun (congrArg Option.map ?_)
    funext relays
    rw [Function.comp_apply]
    by_cases same : change.route = id
    · have kept : (change.route == id) = true := beq_iff_eq.2 same
      rw [List.filter_cons, kept, if_pos same.symm]
      rfl
    · have skipped : (change.route == id) = false := beq_eq_false_iff_ne.2 same
      rw [List.filter_cons, skipped, if_neg (Ne.symm same)]
      rfl

end State

end SignalBox
