import SignalBox.Proofs.Writing

namespace SignalBox

/-!
# Places of the live state

The live state is read and written at places: the clock, each relay of a route and the two inputs
beside them, the three parts of a track circuit, and every other entry as a whole.  Two states with
the same keys and the same values at all places are equal, so a state holds nothing besides.

A mutation names places.  It is refused exactly where the entry of these places is absent.  Where
it is carried out, what was asked for stands there, and every other place keeps its value.  The
relays that a cycle writes stand at places that no mutation names.
-/

/-- Where a live state holds a value. -/
inductive Place where
  | clock
  | relay (id : ObjectId) (relay : Relay)
  | ctc (id : ObjectId)
  | routeLock (id : ObjectId)
  | lever (id : ObjectId)
  | button (name : String)
  | occupied (id : ObjectId)
  | changedAt (id : ObjectId)
  | trackLock (id : ObjectId)
  | machine (id : ObjectId)
  | directionRoute (id : ObjectId)
  | keyLever (id : ObjectId)
  | chrRelay (id : ObjectId)
deriving DecidableEq

/-- The places that a mutation names. -/
def Mutation.places : Mutation → List Place
  | .lever id _ => [.lever id]
  | .button name _ => [.button name]
  | .keyLever id _ => [.keyLever id]
  | .track id _ => [.occupied id, .changedAt id]
  | .trackLock id _ => [.trackLock id]
  | .machine id _ _ => [.machine id]
  | .directionRoute id _ => [.directionRoute id]
  | .routeLock id _ => [.routeLock id]
  | .ctc id _ => [.ctc id]
  | .central id _ => [.chrRelay id]

theorem Mutation.clock_not_mem_places (mutation : Mutation) : Place.clock ∉ mutation.places := by
  cases mutation <;> simp [places]

theorem Mutation.relay_not_mem_places (mutation : Mutation) (id : ObjectId) (relay : Relay) :
    Place.relay id relay ∉ mutation.places := by
  cases mutation <;> simp [places]

namespace TrackState

variable (track : TrackState) (now : Time.Timestamp) (occupied : Bool)

theorem occupy_occupied : (track.occupy now occupied).occupied = occupied := by
  unfold occupy
  split
  · assumption
  · rfl

theorem occupy_locked : (track.occupy now occupied).locked = track.locked := by
  unfold occupy
  split <;> rfl

end TrackState

/-! ## One entry of a table -/

namespace Table

variable {κ α β : Type} [DecidableEq κ] {table : Table κ α} {key other : κ} {update : α → α}

theorem get?_modify_of_ne (different : other ≠ key) :
    (table.modify key update).get? other = table.get? other := by
  rw [get?_modify]
  simp only [if_neg different, Option.map_id']

/-- What an update keeps of a value, it keeps of every entry. -/
theorem map_get?_modify {read : α → β} (kept : ∀ value, read (update value) = read value) :
    ((table.modify key update).get? other).map read = (table.get? other).map read := by
  rw [get?_modify, Option.map_map]
  refine Option.map_congr fun value _ => ?_
  by_cases same : other = key
  · simp [same, kept]
  · simp [same]

theorem get?_modify_self (present : key ∈ table.keys) :
    ∃ value, table.get? key = some value ∧
      (table.modify key update).get? key = some (update value) := by
  rcases (mem_keys_iff_get? table key).1 present with ⟨value, found⟩
  refine ⟨value, found, ?_⟩
  rw [get?_modify, found, Option.map_some, if_pos rfl]

end Table

namespace State

/-! ## The same values -/

/-- Two states have the same value at a place. -/
def SameAt (first second : State) : Place → Prop
  | .clock => first.now = second.now
  | .relay id relay =>
    (first.routes.get? id).map (fun relays => relay.get relays) =
      (second.routes.get? id).map fun relays => relay.get relays
  | .ctc id => (first.routes.get? id).map RouteRelays.ctc = (second.routes.get? id).map RouteRelays.ctc
  | .routeLock id =>
    (first.routes.get? id).map RouteRelays.routeLock =
      (second.routes.get? id).map RouteRelays.routeLock
  | .lever id => first.levers.get? id = second.levers.get? id
  | .button name => first.buttons.get? name = second.buttons.get? name
  | .occupied id =>
    (first.tracks.get? id).map TrackState.occupied = (second.tracks.get? id).map TrackState.occupied
  | .changedAt id =>
    (first.tracks.get? id).map TrackState.changedAt =
      (second.tracks.get? id).map TrackState.changedAt
  | .trackLock id =>
    (first.tracks.get? id).map TrackState.locked = (second.tracks.get? id).map TrackState.locked
  | .machine id => first.machines.get? id = second.machines.get? id
  | .directionRoute id => first.directionRoutes.get? id = second.directionRoutes.get? id
  | .keyLever id => first.keyLevers.get? id = second.keyLevers.get? id
  | .chrRelay id => first.chrRelays.get? id = second.chrRelays.get? id

theorem isRaised_of_sameAt {first second : State} {relay : Relay} {id : ObjectId}
    (same : first.SameAt second (.relay id relay)) :
    first.isRaised relay id = second.isRaised relay id := by
  have raised : ∀ state : State, state.isRaised relay id =
      ((state.routes.get? id).map fun relays => relay.get relays).getD false := by
    intro state
    unfold isRaised
    cases state.routes.get? id <;> rfl
  rw [raised, raised, same]

private theorem relays_ext {first second : Option RouteRelays}
    (written : ∀ relay : Relay, (first.map fun relays => relay.get relays) =
      second.map fun relays => relay.get relays)
    (ctc : first.map RouteRelays.ctc = second.map RouteRelays.ctc)
    (routeLock : first.map RouteRelays.routeLock = second.map RouteRelays.routeLock) :
    first = second := by
  cases first with
  | none =>
    cases second with
    | none => rfl
    | some other => cases ctc
  | some relays =>
    cases second with
    | none => cases ctc
    | some other =>
      exact congrArg some (RouteRelays.ext_relays (fun relay => Option.some.inj (written relay))
        (Option.some.inj ctc) (Option.some.inj routeLock))

private theorem track_ext {first second : Option TrackState}
    (occupied : first.map TrackState.occupied = second.map TrackState.occupied)
    (changedAt : first.map TrackState.changedAt = second.map TrackState.changedAt)
    (locked : first.map TrackState.locked = second.map TrackState.locked) : first = second := by
  cases first with
  | none =>
    cases second with
    | none => rfl
    | some other => cases locked
  | some track =>
    cases second with
    | none => cases locked
    | some other =>
      cases track
      cases other
      cases Option.some.inj occupied
      cases Option.some.inj changedAt
      cases Option.some.inj locked
      rfl

/-- A state holds nothing besides its places. -/
theorem ext_places {first second : State} (keys : SameKeys first second)
    (same : ∀ place, first.SameAt second place) : first = second := by
  have routes := Table.ext_get? keys.routes fun id =>
    relays_ext (fun relay => same (.relay id relay)) (same (.ctc id)) (same (.routeLock id))
  have tracks := Table.ext_get? keys.tracks fun id =>
    track_ext (same (.occupied id)) (same (.changedAt id)) (same (.trackLock id))
  have levers := Table.ext_get? keys.levers fun id => same (.lever id)
  have buttons := Table.ext_get? keys.buttons fun name => same (.button name)
  have machines := Table.ext_get? keys.machines fun id => same (.machine id)
  have directionRoutes := Table.ext_get? keys.directionRoutes fun id => same (.directionRoute id)
  have keyLevers := Table.ext_get? keys.keyLevers fun id => same (.keyLever id)
  have chrRelays := Table.ext_get? keys.chrRelays fun id => same (.chrRelay id)
  have clock : first.now = second.now := same .clock
  cases first
  cases second
  subst clock routes levers buttons tracks machines directionRoutes keyLevers chrRelays
  rfl

end State

/-! ## What a mutation writes -/

namespace Mutation

/-- What the mutation asks for stands in the state. -/
def Stands (state : State) : Mutation → Prop
  | .lever id position => state.lever id = .ok position
  | .button name pressed => state.button name = .ok pressed
  | .keyLever id direction => state.keyLever id = .ok direction
  | .track id occupied => (state.track id).map TrackState.occupied = .ok occupied
  | .trackLock id locked => (state.track id).map TrackState.locked = .ok locked
  | .machine id direction switching => state.machine id = .ok ⟨switching, direction⟩
  | .directionRoute id side => state.directionRoute id = .ok side
  | .routeLock id raised => (state.route id).map RouteRelays.routeLock = .ok raised
  | .ctc id raised => (state.route id).map RouteRelays.ctc = .ok raised
  | .central id raised => state.chrRelay id = .ok raised

variable {mutation : Mutation} {state : State} {place : Place}

/-- A mutation writes at the places that it names. -/
theorem sameAt_apply (outside : place ∉ mutation.places) :
    (mutation.apply state).SameAt state place := by
  cases mutation with
  | lever id =>
    cases place with
    | lever other => exact Table.get?_modify_of_ne (by simpa [places] using outside)
    | _ => rfl
  | button name =>
    cases place with
    | button other => exact Table.get?_modify_of_ne (by simpa [places] using outside)
    | _ => rfl
  | keyLever id =>
    cases place with
    | keyLever other => exact Table.get?_modify_of_ne (by simpa [places] using outside)
    | _ => rfl
  | machine id =>
    cases place with
    | machine other => exact Table.get?_modify_of_ne (by simpa [places] using outside)
    | _ => rfl
  | directionRoute id =>
    cases place with
    | directionRoute other => exact Table.get?_modify_of_ne (by simpa [places] using outside)
    | _ => rfl
  | central id =>
    cases place with
    | chrRelay other => exact Table.get?_modify_of_ne (by simpa [places] using outside)
    | _ => rfl
  -- Of the parts of one entry, the update keeps all but the named ones.
  | track id occupied =>
    cases place with
    | occupied other =>
      exact congrArg _ (Table.get?_modify_of_ne (by simpa [places] using outside))
    | changedAt other =>
      exact congrArg _ (Table.get?_modify_of_ne (by simpa [places] using outside))
    | trackLock other => exact Table.map_get?_modify fun track => track.occupy_locked _ _
    | _ => rfl
  | trackLock id =>
    cases place with
    | trackLock other =>
      exact congrArg _ (Table.get?_modify_of_ne (by simpa [places] using outside))
    | occupied other => exact Table.map_get?_modify fun _ => rfl
    | changedAt other => exact Table.map_get?_modify fun _ => rfl
    | _ => rfl
  | routeLock id =>
    cases place with
    | routeLock other =>
      exact congrArg _ (Table.get?_modify_of_ne (by simpa [places] using outside))
    | ctc other => exact Table.map_get?_modify fun _ => rfl
    | relay other relay => exact Table.map_get?_modify fun _ => by cases relay <;> rfl
    | _ => rfl
  | ctc id =>
    cases place with
    | ctc other => exact congrArg _ (Table.get?_modify_of_ne (by simpa [places] using outside))
    | routeLock other => exact Table.map_get?_modify fun _ => rfl
    | relay other relay => exact Table.map_get?_modify fun _ => by cases relay <;> rfl
    | _ => rfl

/-- What the mutation asks for stands where its entry is. -/
theorem stands_apply (known : mutation.Known state) : mutation.Stands (mutation.apply state) := by
  cases mutation with
  | track id occupied =>
    rcases Table.get?_modify_self known with ⟨track, _, found⟩
    exact Fallible.map_eq_ok.2 ⟨_, State.entry_eq_ok.2 found, track.occupy_occupied _ _⟩
  | trackLock id =>
    rcases Table.get?_modify_self known with ⟨track, _, found⟩
    exact Fallible.map_eq_ok.2 ⟨_, State.entry_eq_ok.2 found, rfl⟩
  | routeLock id | ctc id =>
    rcases Table.get?_modify_self known with ⟨relays, _, found⟩
    exact Fallible.map_eq_ok.2 ⟨_, State.entry_eq_ok.2 found, rfl⟩
  | _ =>
    rcases Table.get?_modify_self known with ⟨_, _, found⟩
    exact State.entry_eq_ok.2 found

end Mutation

end SignalBox
