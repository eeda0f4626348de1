import SignalBox.Document.State
import SignalBox.Proofs.CoveredStates
import SignalBox.Proofs.LeverFindings
import SignalBox.Proofs.Records
import SignalBox.Proofs.SideBySide

namespace SignalBox

/-!
# Documents from before central control

A state document may be older than some of the relays.  The relays of a route that it leaves out are
read as dropped.  The CHR relays stand in a table of their own; where the document leaves it out, the
table is empty, and that is not the same: a relay that is dropped has an entry.

The lever stage asks for the CHR relay of every route that has a central-control lever, before
anything else about the station.  So the state behaves like one with the missing relays dropped just
if none of the relays that are asked for is missing.  Otherwise its cycles fail at the first route
whose relay is, and leave the state as it was.
-/

namespace Table

variable {κ α : Type} [DecidableEq κ]

/-- The table with the same value under all keys of a list that it has no value under. -/
def fill (table : Table κ α) (keys : List κ) (value : α) : Table κ α :=
  keys.foldl (fun filled key => if filled.contains key then filled else filled.insert key value)
    table

private theorem get?_supplement (table : Table κ α) (first key : κ) (value : α) :
    (if table.contains first then table else table.insert first value).get? key =
      (table.get? key).or (if first = key then some value else none) := by
  by_cases stored : table.contains first = true
  · rcases (mem_keys_iff_get? _ _).1 ((contains_iff_mem_keys _ _).1 stored) with ⟨old, found⟩
    rw [if_pos stored]
    by_cases own : first = key
    · rw [← own, found, Option.some_or]
    · rw [if_neg own, Option.or_none]
  · rw [if_neg stored, get?_insert]
    by_cases own : first = key
    · have absent : table.get? key = none := by
        rw [Option.eq_none_iff_forall_ne_some]
        intro old found
        exact stored ((contains_iff_mem_keys _ _).2 ((mem_keys_iff_get? _ _).2 ⟨old, own ▸ found⟩))
      rw [if_pos own, if_pos own, absent, Option.none_or]
    · rw [if_neg own, if_neg own, Option.or_none]

/-- What a table has a value under keeps it. -/
theorem get?_fill (table : Table κ α) (keys : List κ) (value : α) (key : κ) :
    (table.fill keys value).get? key =
      (table.get? key).or (if key ∈ keys then some value else none) := by
  induction keys generalizing table with
  | nil => exact Option.or_none.symm
  | cons first rest inductionHypothesis =>
    refine (inductionHypothesis _).trans ?_
    rw [get?_supplement, Option.or_assoc]
    by_cases own : first = key
    · simp [own]
    · simp [own, Ne.symm own]

end Table

/-! ## Reading documents without CHR relays -/

open Json.Record in
/-- A document that leaves the CHR relays out is read with an empty table of them. -/
theorem Document.chrRelays_of_absent {members : List (Json.Name × Json)} {loaded : State}
    (absent : ∀ member, member ∈ members → member.1.text ≠ "chr_relays")
    (read : Document.state (.object members) = some loaded) : loaded.chrRelays = .empty := by
  rcases Option.map_eq_some_iff.1 read with ⟨⟨whole, fields⟩, record, rfl⟩
  rcases exists_of_bind_named (fun _ _ => required_named) record with ⟨now, record⟩
  rcases exists_of_bind_named (fun _ _ => defaulting_named) record with ⟨routes, record⟩
  rcases exists_of_bind_named (fun _ _ => defaulting_named) record with ⟨levers, record⟩
  rcases exists_of_bind_named (fun _ _ => defaulting_named) record with ⟨buttons, record⟩
  rcases exists_of_bind_named (fun _ _ => defaulting_named) record with ⟨tracks, record⟩
  rcases exists_of_bind_named (fun _ _ => defaulting_named) record with ⟨machines, record⟩
  rcases exists_of_bind_named (fun _ _ => defaulting_named) record with ⟨directionRoutes, record⟩
  rcases exists_of_bind_named (fun _ _ => defaulting_named) record with ⟨keyLevers, record⟩
  rcases Option.bind_eq_some_iff.1 record with ⟨⟨chrRelays, rest⟩, own, built⟩
  rw [defaulting_of_absent absent] at own
  cases own
  cases built
  rfl

namespace State

variable {plant : Database} {state : State} {id : ObjectId}

/-- The state with every missing CHR relay of a central-control lever present and dropped. -/
def withDropped (state : State) (plant : Database) : State :=
  { state with
    chrRelays := state.chrRelays.fill
      ((plant.objectsOfKind .routeCentralControlLever).map PlantObject.id) false }

/-- The CHR relay by which a route is handed over has an entry, if there is one at all. -/
def KnowsControl (state : State) (plant : Database) (id : ObjectId) : Prop :=
  ∀ definition lever, plant.route? id = some definition →
    definition.centralControlLever = some lever → Succeeds (state.chrRelay lever)

/-- A relay that is there keeps its value when others are filled in. -/
theorem chrRelay_withDropped {lever : ObjectId} (known : Succeeds (state.chrRelay lever)) :
    (state.withDropped plant).chrRelay lever = state.chrRelay lever := by
  rcases known with ⟨raised, entered⟩
  rw [entered]
  refine entry_eq_ok.2 ?_
  rw [withDropped, Table.get?_fill, entry_eq_ok.1 entered]
  rfl

theorem isCentral_withDropped (known : state.KnowsControl plant id)
    {definition : RouteDefinition} (defined : plant.route? id = some definition) :
    Interlocking.isCentral (state.withDropped plant) definition =
      Interlocking.isCentral state definition := by
  unfold Interlocking.isCentral
  cases named : definition.centralControlLever with
  | none => rfl
  | some lever => exact chrRelay_withDropped (known definition lever defined named)

end State

namespace Interlocking

variable {box : Interlocking} {state : State} {id : ObjectId} {chrRelays : Table ObjectId Bool}

theorem isCentral_congr {other : State} (same : state.chrRelays = other.chrRelays) :
    isCentral state = isCentral other := by
  funext definition
  simp only [isCentral, State.chrRelay, same]

/-- Two states may differ in CHR relays without a stage's noticing it for a route, as long as they put
the route under the same control. -/
theorem changesOf_of_isCentral_eq
    (same : ∀ definition, box.plant.route? id = some definition →
      isCentral { state with chrRelays } definition = isCentral state definition)
    (stage : Stage) :
    stage.changesOf box { state with chrRelays } id = stage.changesOf box state id := by
  cases stage with
  | route => rfl
  | signalControl => rfl
  | lever =>
    have relays : box.leverRelays { state with chrRelays } id = box.leverRelays state id := by
      funext current
      unfold leverRelays
      cases found : box.plant.definition id with
      | error missing => rfl
      | ok definition =>
        rw [Fallible.bind_of_eq_ok rfl, Fallible.bind_of_eq_ok rfl,
          same definition (Database.definition_eq_ok.1 found)]
        rfl
    exact bind_congr fun current => by rw [relays]

/-- In states that put every defined route under the same control, cycles give the same results and
the same relays. -/
theorem sweep_of_isCentral_eq
    (same : ∀ id, id ∈ box.plant.routeIds → ∀ definition, box.plant.route? id = some definition →
      isCentral { state with chrRelays } definition = isCentral state definition) :
    (box.sweep { state with chrRelays }).1 = { (box.sweep state).1 with chrRelays } ∧
      (box.sweep { state with chrRelays }).2 = (box.sweep state).2 := by
  have performed := @Stage.performAll_congr box box (fun _ => box.plant.routeIds)
    (fun first second => first = { second with chrRelays } ∧ second.chrRelays = state.chrRelays)
    (fun stage first second related => ?_) (fun first second change related => ?_) Stage.order
    { state with chrRelays } state ⟨rfl, rfl⟩
  · exact ⟨performed.1.1, congrArg (Except.map SweepReport.mk) performed.2⟩
  · rcases related with ⟨rfl, kept⟩
    refine congrArg (Except.map List.flatten) (Fallible.mapM_congr fun id visited => ?_)
    refine changesOf_of_isCentral_eq (fun definition defined => ?_) stage
    rw [isCentral_congr kept]
    exact same id visited definition defined
  · rcases related with ⟨rfl, kept⟩
    exact ⟨rfl, kept⟩

/-- A cycle that succeeds has found out of every route with a central-control lever who controls
it. -/
theorem knowsControl_of_sweep (swept : Succeeds (box.sweep state).2) (id : ObjectId) :
    state.KnowsControl box.plant id := by
  intro definition lever stored named
  rcases swept with ⟨report, done⟩
  have whole : box.sweep state = ((box.sweep state).1, .ok report) := Prod.ext rfl done
  rcases findings_of_sweep stored whole with ⟨current, found, _, findings, _⟩
  cases findings with
  | central handed lock =>
    rw [isCentral, named] at handed
    exact ⟨true, handed⟩
  | station kept lock request given controlled throwOut pressed traversed =>
    rw [isCentral, named] at kept
    exact ⟨false, kept⟩

section Supplied

variable (consistent : box.plant.Consistent)
  (supplies : box.Supplies (state.withDropped box.plant))
include consistent supplies

theorem changesOf_succeeds_of_knowsControl (defined : id ∈ box.plant.routeIds)
    (known : state.KnowsControl box.plant id) : Succeeds (Stage.lever.changesOf box state id) := by
  rw [← changesOf_of_isCentral_eq (fun definition stored =>
    State.isCentral_withDropped known stored) .lever]
  exact supplies.changesOf_succeeds consistent .lever defined

omit consistent in
/-- The lever stage fails at a route whose CHR relay is missing. -/
theorem changesOf_of_missing {definition : RouteDefinition} {lever : ObjectId}
    (stored : box.plant.route? id = some definition)
    (named : definition.centralControlLever = some lever)
    (missing : lever ∉ state.chrRelays.keys) :
    Stage.lever.changesOf box state id = .error (.state .routeCentralControlLever lever) := by
  have defined := Database.mem_routeIds_of_route? stored
  rcases supplies.equips.route id defined with ⟨current, entry⟩
  rcases supplies.isLocked?_succeeds defined with ⟨locked, lock⟩
  have control : isCentral state definition = .error (.state .routeCentralControlLever lever) := by
    rw [isCentral, named]
    exact State.entry_eq_error missing
  have relays : box.leverRelays state id current =
      .error (.state .routeCentralControlLever lever) :=
    Fallible.bind_eq_error.2 (.inr ⟨definition, Database.definition_eq_ok.2 stored,
      Fallible.bind_eq_error.2 (.inr ⟨locked, lock,
        Fallible.bind_eq_error.2 (.inl control)⟩)⟩)
  exact Fallible.bind_eq_error.2 (.inr ⟨current, entry, Fallible.bind_eq_error.2 (.inl relays)⟩)

/-- A cycle fails at the first route whose CHR relay is missing, and changes nothing. -/
theorem sweep_of_missing {before after : List ObjectId} {definition : RouteDefinition}
    {lever : ObjectId} (order : box.plant.routeIds = before ++ id :: after)
    (known : ∀ earlier, earlier ∈ before → state.KnowsControl box.plant earlier)
    (stored : box.plant.route? id = some definition)
    (named : definition.centralControlLever = some lever)
    (missing : lever ∉ state.chrRelays.keys) :
    box.sweep state = (state, .error (.state .routeCentralControlLever lever)) := by
  refine sweep_eq_error.2 ⟨[], .lever, [.route, .signalControl], [], rfl, .done state, ?_⟩
  refine Fallible.map_eq_error.2 (FailsFirst.mapM_eq_error.2 (FailsFirst.iff_exists.2
    ⟨before, id, after, order, fun earlier member => ?_,
      changesOf_of_missing supplies stored named missing⟩))
  refine changesOf_succeeds_of_knowsControl consistent supplies ?_ (known earlier member)
  rw [order]
  exact List.mem_append_left _ member

end Supplied

/-- Where a state has everything but CHR relays, and has been filled up with dropped ones, the cycle
from it gives what the one from the filled state gives if no CHR relay is missing that a route is
handed over by, and only then.  Otherwise it fails at the first route whose relay is missing, and the
state stays as it is.  So a state from a document without CHR relays behaves as if they were dropped
just if no route has a central-control lever. -/
theorem missing_chr_relays_are_not_dropped {adjacency : Adjacency} {additions : List Addition}
    (added : box.plant = .ofAdditions adjacency additions)
    (supplies : box.Supplies (state.withDropped box.plant)) :
    Succeeds (box.sweep (state.withDropped box.plant)).2 ∧
    ((box.sweep state).2 = (box.sweep (state.withDropped box.plant)).2 ∧
        (box.sweep state).1.routes = (box.sweep (state.withDropped box.plant)).1.routes ↔
      ∀ id, state.KnowsControl box.plant id) ∧
    (∀ before id after definition lever, box.plant.routeIds = before ++ id :: after →
      (∀ earlier, earlier ∈ before → state.KnowsControl box.plant earlier) →
      box.plant.route? id = some definition → definition.centralControlLever = some lever →
      lever ∉ state.chrRelays.keys →
      box.sweep state = (state, .error (.state .routeCentralControlLever lever))) ∧
    ∀ members, (∀ member, member ∈ members → member.1.text ≠ "chr_relays") →
      Document.state (.object members) = some state →
      ((∀ id, state.KnowsControl box.plant id) ↔ ∀ id definition,
        box.plant.route? id = some definition → definition.centralControlLever = none) := by
  have consistent : box.plant.Consistent := by
    rw [added]
    exact Database.consistent_ofAdditions adjacency additions
  have succeeds := supplies.sweep_succeeds consistent
  refine ⟨succeeds, ⟨fun same => ?_, fun known => ?_⟩, ?_, ?_⟩
  · exact knowsControl_of_sweep (same.1 ▸ succeeds)
  · rcases sweep_of_isCentral_eq (fun id _ definition stored =>
      State.isCentral_withDropped (known id) stored) with ⟨sameState, sameOutcome⟩
    exact ⟨sameOutcome.symm, (congrArg State.routes sameState).symm⟩
  · intro before id after definition lever order known stored named missing
    exact sweep_of_missing consistent supplies order known stored named missing
  · intro members absent read
    have empty := Document.chrRelays_of_absent absent read
    constructor
    · intro known id definition stored
      cases named : definition.centralControlLever with
      | none => rfl
      | some lever =>
        have entry := State.entry_succeeds.1 (known id definition lever stored named)
        rw [empty] at entry
        cases entry
    · intro none id definition lever stored named
      cases named.symm.trans (none id definition stored)

/-- The routes of the plant, of which the first one waits for a track circuit. -/
def leading : Interlocking :=
  ⟨leadingPlant, LockTable.insertAll {} [(10, .directLock, .leaf { target := 30 })]⟩

/-- A state of the plant as it was written before there was central control. -/
def leadingDocument : Json :=
  let relays : Json := .object [("lever_relay", .bool false), ("route_relay", .bool false),
    ("signal_control_relay", .bool false), ("throw_out_xr", .bool false),
    ("throw_out_ys", .bool false)]
  .object [("now", .string "2024-04-01T09:00:00Z"),
    ("routes", .object [("10", relays), ("13", relays)]),
    ("levers", .object [("1", .string "Right")]),
    ("buttons", .object [("TH71_AP", .bool true)]),
    ("track_circuits", .object [("30", .object [("occupied", .bool false)])]),
    ("key_levers", .object [("4", .string "Normal"), ("5", .string "Normal")])]

theorem leading_supplies {state : State} (covered : leading.Covered state) :
    leading.Supplies state := by
  have none : LockTable.EndsInApproach leadingPlant {} := by
    intro route track registered
    cases registered
  exact covered.supplies (Database.consistent_ofAdditions {} leadingAdditions)
    (none.insertAll [(10, .directLock, .leaf { target := 30 })])

/-- The state is read, but no cycle goes beyond its first route. -/
theorem leading_document_stops_at_the_first_route :
    ∃ state, Document.state leadingDocument = some state ∧
      leading.Supplies (state.withDropped leading.plant) ∧
      leading.sweep state = (state, .error (.state .routeCentralControlLever 4)) := by
  have checked : (Document.state leadingDocument).any (fun state => decide
      (leading.Covered (state.withDropped leading.plant) ∧ 4 ∉ state.chrRelays.keys)) = true := by
    decide +kernel
  rcases (Option.any_eq_true _ _).1 checked with ⟨state, read, found⟩
  rcases of_decide_eq_true found with ⟨covered, missing⟩
  have supplies := leading_supplies covered
  have order : leading.plant.routeIds = [] ++ 10 :: [13] := by decide +kernel
  have stored : leading.plant.route? 10 = some
      { id := 10, lever := some 1, button := some "TH71_AP", centralControlLever := some 4 } := by
    decide +kernel
  have none : ∀ earlier, earlier ∈ [] → state.KnowsControl leading.plant earlier :=
    List.forall_mem_nil _
  exact ⟨state, read, supplies, (missing_chr_relays_are_not_dropped rfl supplies).2.2.1 [] 10 [13] _
    4 order none stored rfl missing⟩

/-- With the CHR relay dropped, the same state lets the first route be set. -/
theorem leading_document_is_not_read_as_dropped :
    ∃ state, Document.state leadingDocument = some state ∧
      leading.Supplies (state.withDropped leading.plant) ∧
      Succeeds (leading.sweep (state.withDropped leading.plant)).2 ∧
      (leading.sweep (state.withDropped leading.plant)).1.isRaised .signalControl 10 = true ∧
      ¬ Succeeds (leading.sweep state).2 := by
  have checked : (Document.state leadingDocument).any (fun state => decide
      (leading.Covered (state.withDropped leading.plant) ∧
        Succeeds (leading.sweep (state.withDropped leading.plant)).2 ∧
        (leading.sweep (state.withDropped leading.plant)).1.isRaised .signalControl 10 = true ∧
        ¬ Succeeds (leading.sweep state).2)) = true := by
    decide +kernel
  rcases (Option.any_eq_true _ _).1 checked with ⟨state, read, found⟩
  rcases of_decide_eq_true found with ⟨covered, outcome⟩
  exact ⟨state, read, leading_supplies covered, outcome⟩

end Interlocking

end SignalBox
