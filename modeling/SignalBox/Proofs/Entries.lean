import SignalBox.Engine
import SignalBox.Proofs.Consistency

namespace SignalBox

/-!
# Entries of the live state

Every accessor of the live state looks an object up in the table of its kind, so it
succeeds exactly where that table has the key.  Neither a mutation nor a change of a relay
ever adds a key or takes one away.  Which keys there are is therefore decided by the
initial state, and with it by the objects and definitions of the plant.
-/

open Time (Timestamp)

namespace State

/-! ## Looking an entry up -/

section Entry

variable {κ α : Type} [DecidableEq κ] {table : Table κ α} {key : κ} {missing : Missing}

theorem entry_eq_ok {value : α} :
    entry table key missing = .ok value ↔ table.get? key = some value := by
  unfold entry
  cases table.get? key with
  | none => simp
  | some other => simp

theorem entry_succeeds : Succeeds (entry table key missing) ↔ key ∈ table.keys := by
  rw [Table.mem_keys_iff_get?]
  constructor
  · rintro ⟨value, found⟩
    exact ⟨value, entry_eq_ok.1 found⟩
  · rintro ⟨value, found⟩
    exact ⟨value, entry_eq_ok.2 found⟩

/-- Tables with the same keys have the same entries to find. -/
theorem entry_succeeds_congr {other : Table κ α} (same : other.keys = table.keys) :
    Succeeds (entry other key missing) ↔ Succeeds (entry table key missing) := by
  rw [entry_succeeds, entry_succeeds, same]

/-- An absent entry is what is missing. -/
theorem entry_eq_error (absent : key ∉ table.keys) :
    entry table key missing = .error missing := by
  unfold entry
  cases found : table.get? key with
  | none => rfl
  | some value => exact absurd ((Table.mem_keys_iff_get? table key).2 ⟨value, found⟩) absent

theorem change_eq_ok {update : α → α} {changed : Table κ α} :
    change table key missing update = .ok changed ↔
      key ∈ table.keys ∧ changed = table.modify key update := by
  unfold change
  rw [← Table.contains_iff_mem_keys]
  by_cases present : table.contains key = true
  · simp [present, eq_comm]
  · simp [present]

end Entry

end State

/-! ## Carrying out a mutation -/

namespace Mutation

/-- The entry that the mutation names is there. -/
def Known (state : State) : Mutation → Prop
  | .lever id _ => id ∈ state.levers.keys
  | .button name _ => name ∈ state.buttons.keys
  | .keyLever id _ => id ∈ state.keyLevers.keys
  | .track id _ => id ∈ state.tracks.keys
  | .trackLock id _ => id ∈ state.tracks.keys
  | .machine id _ _ => id ∈ state.machines.keys
  | .directionRoute id _ => id ∈ state.directionRoutes.keys
  | .routeLock id _ => id ∈ state.routes.keys
  | .ctc id _ => id ∈ state.routes.keys
  | .central id _ => id ∈ state.chrRelays.keys

/-- The state with what the mutation asks for, if its entry is there. -/
def apply (state : State) : Mutation → State
  | .lever id position => { state with levers := state.levers.modify id fun _ => position }
  | .button name pressed => { state with buttons := state.buttons.modify name fun _ => pressed }
  | .keyLever id direction =>
    { state with keyLevers := state.keyLevers.modify id fun _ => direction }
  | .track id occupied =>
    { state with tracks := state.tracks.modify id fun track => track.occupy state.now occupied }
  | .trackLock id locked =>
    { state with tracks := state.tracks.modify id fun track => { track with locked } }
  | .machine id direction switching =>
    { state with machines := state.machines.modify id fun _ => ⟨switching, direction⟩ }
  | .directionRoute id side =>
    { state with directionRoutes := state.directionRoutes.modify id fun _ => side }
  | .routeLock id raised =>
    { state with routes := state.routes.modify id fun relays => { relays with routeLock := raised } }
  | .ctc id raised =>
    { state with routes := state.routes.modify id fun relays => { relays with ctc := raised } }
  | .central id raised => { state with chrRelays := state.chrRelays.modify id fun _ => raised }

variable {mutation : Mutation} {state changed : State}

private theorem change_bind_eq_ok {κ α : Type} [DecidableEq κ] {table : Table κ α} {key : κ}
    {missing : Missing} {update : α → α} {rebuild : Table κ α → State} :
    (State.change table key missing update >>= fun table => .ok (rebuild table)) = .ok changed ↔
      key ∈ table.keys ∧ changed = rebuild (table.modify key update) := by
  rw [Fallible.bind_eq_ok]
  constructor
  · rintro ⟨modified, done, same⟩
    rcases State.change_eq_ok.1 done with ⟨present, rfl⟩
    exact ⟨present, (Except.ok.inj same).symm⟩
  · rintro ⟨present, rfl⟩
    exact ⟨_, State.change_eq_ok.2 ⟨present, rfl⟩, rfl⟩

/-- All there is to say of a mutation: when it succeeds, and which state it leaves. -/
theorem mutate_eq_ok :
    state.mutate mutation = .ok changed ↔ mutation.Known state ∧ changed = mutation.apply state := by
  cases mutation with
  | _ => exact change_bind_eq_ok

theorem mutate_succeeds : Succeeds (state.mutate mutation) ↔ mutation.Known state := by
  constructor
  · rintro ⟨changed, done⟩
    exact (mutate_eq_ok.1 done).1
  · intro known
    exact ⟨mutation.apply state, mutate_eq_ok.2 ⟨known, rfl⟩⟩

end Mutation

namespace State

/-! ## The same keys -/

/-- Two states with an entry for the same things. -/
structure SameKeys (first second : State) : Prop where
  routes : first.routes.keys = second.routes.keys
  levers : first.levers.keys = second.levers.keys
  buttons : first.buttons.keys = second.buttons.keys
  tracks : first.tracks.keys = second.tracks.keys
  machines : first.machines.keys = second.machines.keys
  directionRoutes : first.directionRoutes.keys = second.directionRoutes.keys
  keyLevers : first.keyLevers.keys = second.keyLevers.keys
  chrRelays : first.chrRelays.keys = second.chrRelays.keys

namespace SameKeys

theorem refl (state : State) : SameKeys state state :=
  ⟨rfl, rfl, rfl, rfl, rfl, rfl, rfl, rfl⟩

theorem trans {first second third : State} (left : SameKeys first second)
    (right : SameKeys second third) : SameKeys first third where
  routes := left.routes.trans right.routes
  levers := left.levers.trans right.levers
  buttons := left.buttons.trans right.buttons
  tracks := left.tracks.trans right.tracks
  machines := left.machines.trans right.machines
  directionRoutes := left.directionRoutes.trans right.directionRoutes
  keyLevers := left.keyLevers.trans right.keyLevers
  chrRelays := left.chrRelays.trans right.chrRelays

end SameKeys

theorem sameKeys_apply (state : State) (mutation : Mutation) :
    SameKeys (mutation.apply state) state := by
  have unchanged := SameKeys.refl state
  cases mutation with
  | lever => exact { unchanged with levers := Table.keys_modify .. }
  | button => exact { unchanged with buttons := Table.keys_modify .. }
  | keyLever => exact { unchanged with keyLevers := Table.keys_modify .. }
  | track | trackLock => exact { unchanged with tracks := Table.keys_modify .. }
  | machine => exact { unchanged with machines := Table.keys_modify .. }
  | directionRoute => exact { unchanged with directionRoutes := Table.keys_modify .. }
  | routeLock | ctc => exact { unchanged with routes := Table.keys_modify .. }
  | central => exact { unchanged with chrRelays := Table.keys_modify .. }

/-- A mutation changes the value of one entry of one table. -/
theorem sameKeys_mutate {state changed : State} {mutation : Mutation}
    (mutated : state.mutate mutation = .ok changed) : SameKeys changed state := by
  rcases Mutation.mutate_eq_ok.1 mutated with ⟨_, rfl⟩
  exact sameKeys_apply state mutation

/-- Which mutations are accepted is a matter of the keys. -/
theorem SameKeys.known_iff {mutation : Mutation} {first second : State}
    (same : SameKeys first second) :
    mutation.Known first ↔ mutation.Known second := by
  cases mutation with
  | lever => rw [Mutation.Known, Mutation.Known, same.levers]
  | button => rw [Mutation.Known, Mutation.Known, same.buttons]
  | keyLever => rw [Mutation.Known, Mutation.Known, same.keyLevers]
  | track | trackLock => rw [Mutation.Known, Mutation.Known, same.tracks]
  | machine => rw [Mutation.Known, Mutation.Known, same.machines]
  | directionRoute => rw [Mutation.Known, Mutation.Known, same.directionRoutes]
  | routeLock | ctc => rw [Mutation.Known, Mutation.Known, same.routes]
  | central => rw [Mutation.Known, Mutation.Known, same.chrRelays]

/-! ## The initial state -/

theorem get?_uniform {α : Type} (ids : List ObjectId) (value : α) (id : ObjectId) :
    (uniform ids value).get? id = if id ∈ ids then some value else none := by
  have collected : ∀ table : Table ObjectId α,
      ((ids.map fun id => (id, value)).foldl
          (fun table entry => table.insert entry.1 entry.2) table).get? id =
        if id ∈ ids then some value else table.get? id := by
    induction ids with
    | nil => simp
    | cons head rest inductionHypothesis =>
      intro table
      rw [List.map_cons, List.foldl_cons, inductionHypothesis, Table.get?_insert]
      by_cases later : id ∈ rest
      · simp [later]
      · by_cases same : head = id
        · simp [later, same]
        · simp [later, same, Ne.symm same]
  exact collected .empty

theorem mem_keys_uniform {α : Type} {ids : List ObjectId} {value : α} {id : ObjectId} :
    id ∈ (uniform ids value).keys ↔ id ∈ ids := by
  rw [uniform, Table.mem_keys_ofList, List.map_map]
  simp

/-- An entry that all keys have the value of is this value. -/
theorem eq_of_entry_uniform {α : Type} {ids : List ObjectId} {value found : α} {id : ObjectId}
    {missing : Missing} (entered : entry (uniform ids value) id missing = .ok found) :
    found = value := by
  rw [entry_eq_ok, get?_uniform] at entered
  by_cases listed : id ∈ ids
  · rw [if_pos listed] at entered
    exact (Option.some.inj entered).symm
  · rw [if_neg listed] at entered
    cases entered

section Initial

variable {plant : Database} {now : Timestamp} {id : ObjectId}

theorem mem_routes_initial : id ∈ (initial plant now).routes.keys ↔ id ∈ plant.routeIds :=
  mem_keys_uniform

/-- Each route that has a button has it in the initial state. -/
theorem mem_buttons_initial {definition : RouteDefinition} {button : String}
    (defined : plant.route? id = some definition) (named : definition.button = some button) :
    button ∈ (initial plant now).buttons.keys := by
  have listed := Database.mem_routeIds_of_route? defined
  refine (Table.mem_keys_ofList _ _).2 ?_
  rw [List.map_map]
  refine List.mem_map.2 ⟨button, List.mem_filterMap.2 ⟨id, listed, ?_⟩, rfl⟩
  rw [defined]
  exact named

variable (consistent : plant.Consistent)
include consistent

theorem mem_levers_initial : id ∈ (initial plant now).levers.keys ↔ plant.kind id = .ok .lever :=
  mem_keys_uniform.trans consistent.mem_objectsOfKind

theorem mem_tracks_initial :
    id ∈ (initial plant now).tracks.keys ↔ plant.kind id = .ok .trackCircuit :=
  mem_keys_uniform.trans consistent.mem_objectsOfKind

theorem mem_machines_initial :
    id ∈ (initial plant now).machines.keys ↔ plant.kind id = .ok .switchingMachine :=
  mem_keys_uniform.trans consistent.mem_objectsOfKind

theorem mem_directionRoutes_initial :
    id ∈ (initial plant now).directionRoutes.keys ↔ plant.kind id = .ok .directionRoute :=
  mem_keys_uniform.trans consistent.mem_objectsOfKind

theorem mem_chrRelays_initial :
    id ∈ (initial plant now).chrRelays.keys ↔
      plant.kind id = .ok .routeCentralControlLever :=
  mem_keys_uniform.trans consistent.mem_objectsOfKind

/-- Key levers are of two kinds. -/
theorem mem_keyLevers_initial :
    id ∈ (initial plant now).keyLevers.keys ↔
      plant.kind id = .ok .directionSelfControlLever ∨
        plant.kind id = .ok .routeCentralControlLever := by
  refine mem_keys_uniform.trans ?_
  rw [List.mem_append, consistent.mem_objectsOfKind, consistent.mem_objectsOfKind]

end Initial

end State

end SignalBox
