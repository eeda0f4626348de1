import SignalBox.Proofs.History
import SignalBox.Proofs.LeverFindings

namespace SignalBox

/-!
# The lever relay as a latch

A route is set by its lever together with its destination button.  The button is only needed
once: from then on the lever relay holds itself as long as the lever stays off its centre and
the direct lock does not lock.  Letting the button go changes nothing.  But once the relay has
dropped, the lever alone does not raise it again.

This is so for routes on which neither central control nor another route with a lever has any
influence.  The XR and the YS relay of such a route are dropped in every cycle, as no control
extends to it, and it has no routes downstream that could hold it.  Controls of routes without
lever do not matter: they raise X relays, which stand in for levers only where there is none.

What the relay shows after a cycle depends on its own past, so it is described by the whole
history: by the states in which the cycles of the run began.
-/

namespace Interlocking

/-- A route with a lever that only its own lever, button and direct lock have a say in: it is
not handed to central control, and no control connects it with another route with a
lever. -/
structure StandsAlone (box : Interlocking) (id : ObjectId) (definition : RouteDefinition)
    (lever : ObjectId) : Prop where
  defined : box.plant.route? id = some definition
  lever : definition.lever = some lever
  central : definition.centralControlLever = none
  unconnected : ∀ control, control ∈ box.plant.throwOuts → control.kind = .withLever →
    control.source ≠ id ∧ control.target ≠ id

/-- The lever of a route is off its centre, and its direct lock does not lock. -/
structure Holds (box : Interlocking) (id lever : ObjectId) (state : State) : Prop where
  thrown : ∃ position, state.lever lever = .ok position ∧ position.isCentered = false
  unlocked : box.isLocked? state (box.locks.clause? id .directLock) = .ok false

variable {box : Interlocking} {state : State} {id lever : ObjectId}
  {definition : RouteDefinition}

theorem activeRoutes_of_none {controls : List ThrowOut} {kind : ThrowOutKind}
    {otherEnd : ThrowOut → ObjectId}
    (none : ∀ control, control ∈ controls → control.kind ≠ kind) :
    box.activeRoutes state controls kind otherEnd = .ok [] := by
  have nothing : controls.filter (fun control => control.kind == kind) = [] :=
    List.filter_eq_nil_iff.2 fun control listed same => none control listed (beq_iff_eq.1 same)
  rw [activeRoutes, nothing]
  rfl

namespace StandsAlone

variable (alone : box.StandsAlone id definition lever)
include alone

theorem controllers_eq : box.controllers state .withLever id = .ok [] := by
  refine activeRoutes_of_none fun control listed kind => ?_
  rcases List.mem_filter.1 listed with ⟨stored, target⟩
  exact (alone.unconnected control stored kind).2 (beq_iff_eq.1 target)

theorem controlled_eq : box.controlled state id = .ok [] := by
  refine activeRoutes_of_none fun control listed kind => ?_
  rcases List.mem_filter.1 listed with ⟨stored, source⟩
  exact (alone.unconnected control stored kind).1 (beq_iff_eq.1 source)

/-- Without other routes, the lever relay is a matter of the lever, the lock, the button and
the relay itself. -/
theorem of_findings {current : RouteRelays} {found : LeverRelays}
    (findings : LeverFindings box state id definition current found) :
    ∃ locked position button,
      box.isLocked? state (box.locks.clause? id .directLock) = .ok locked ∧
      state.lever lever = .ok position ∧ isPressed state definition = .ok button ∧
      found.lever = (!locked && !position.isCentered && (button || current.lever)) := by
  cases findings with
  | central handed lock =>
    rw [isCentral, alone.central] at handed
    cases handed
  | @station locked requested button held x sources targets downstream kept lock request own
      controlled throwOut pressed traversed =>
    cases alone.controllers_eq.symm.trans own
    cases alone.controlled_eq.symm.trans controlled
    cases throwOut
    cases traversed
    rw [Interlocking.request, alone.lever] at request
    rcases Fallible.bind_eq_ok.1 request with ⟨position, entered, same⟩
    cases same
    exact ⟨locked, position, button, lock, entered, pressed, by simp⟩

/-- A cycle raises the lever relay where the lever and the lock allow it and the button is
pressed, and keeps it where they allow it. -/
theorem isRaised_of_sweep {final : State} {report : SweepReport}
    (swept : box.sweep state = (final, .ok report)) :
    final.isRaised .lever id = true ↔ box.Holds id lever state ∧
      (isPressed state definition = .ok true ∨ state.isRaised .lever id = true) := by
  rcases findings_of_sweep alone.defined swept with
    ⟨current, found, entered, findings, _, _, _, raised⟩
  rcases alone.of_findings findings with ⟨locked, position, button, lock, entry, pressed, value⟩
  rw [raised, State.isRaised_of_route entered, value, pressed]
  change _ ↔ _ ∧ (_ ∨ current.lever = true)
  have holds : box.Holds id lever state ↔ locked = false ∧ position.isCentered = false := by
    constructor
    · rintro ⟨⟨other, same, thrown⟩, unlocked⟩
      cases entry.symm.trans same
      cases lock.symm.trans unlocked
      exact ⟨rfl, thrown⟩
    · rintro ⟨rfl, thrown⟩
      exact ⟨⟨position, entry, thrown⟩, lock⟩
  simp [holds]

end StandsAlone

end Interlocking

namespace Engine

variable {engine : Engine}

section Runs

variable {id lever : ObjectId} {definition : RouteDefinition}

/-- Along a run the lever relay shows whether it is latched. -/
theorem isRaised_lever_iff (alone : engine.box.StandsAlone id definition lever)
    (initial : engine.live.Satisfies fun state => state.isRaised .lever id = false)
    (actions : List Action)
    (succeed : EachCycle (fun engine => Succeeds engine.cycle.2) engine actions) {state : State}
    (reached : (engine.run actions).live = .running state) :
    state.isRaised .lever id = true ↔
      Latched (fun start => Interlocking.isPressed start definition = .ok true)
        (engine.box.Holds id lever) (engine.cycleStarts actions) :=
  isRaised_iff_latched (fun _ _ _ swept => alone.isRaised_of_sweep swept) initial actions succeed
    reached

end Runs

/-- Along every run of an engine that has been loaded whose cycles succeed: the lever relay of
a route with a lever, without central control and without controls of other routes with a
lever is raised exactly if one of the cycles so far started with the button of the route
pressed, and this cycle and all later ones with its lever off the centre and its direct lock
not locking. -/
theorem lever_relay_latches {data : PlantData} {config : EngineConfig} {now : Time.Timestamp}
    (loaded : (load data config now).2 = .ok engine) {id lever : ObjectId}
    {definition : RouteDefinition} (alone : engine.box.StandsAlone id definition lever)
    {actions : List Action}
    (succeed : EachCycle (fun engine => Succeeds engine.cycle.2) engine actions) {state : State}
    (reached : (engine.run actions).live = .running state) :
    state.isRaised .lever id = true ↔
      Latched (fun start => Interlocking.isPressed start definition = .ok true)
        (engine.box.Holds id lever) (engine.cycleStarts actions) := by
  refine isRaised_lever_iff alone ?_ actions succeed reached
  rcases load_eq_ok loaded with ⟨plant, locks, network, _, _, _, _, rfl⟩
  exact State.isRaised_initial plant now .lever id

end Engine

/-- The small plant with a destination button for its first route. -/
def PlantData.buttoned : PlantData :=
  { PlantData.crossing with
    routes := [{ id := 10, lever := some 1, button := some "TH71_AP" },
      { id := 11, lever := some 2 }] }

namespace Engine

/-- The lever is thrown and the button pressed for one cycle, and let go before the next. -/
def pressing : List Action :=
  [.mutate (.lever 1 .right), .mutate (.button "TH71_AP" true), .cycle,
    .mutate (.button "TH71_AP" false), .cycle]

/-- The lever relay of the first route is latched with its button let go. -/
theorem buttoned_lever_relay_latches :
    ∃ engine state, (load .buttoned {} default).2 = .ok engine ∧
      (engine.run pressing).live = .running state ∧ state.button "TH71_AP" = .ok false ∧
      state.isRaised .lever 10 = true ∧
      Latched (fun start => start.button "TH71_AP" = .ok true) (engine.box.Holds 10 1)
        (engine.cycleStarts pressing) := by
  have checked : (load .buttoned {} default).2.toOption.any (fun engine =>
      decide (EachCycle (fun engine => Succeeds engine.cycle.2) engine pressing ∧
        engine.box.plant.route? 10 =
          some { id := 10, lever := some 1, button := some "TH71_AP" } ∧
        engine.box.plant.throwOuts = []) &&
      (engine.run pressing).live.state?.any fun state =>
        state.isRaised .lever 10 && (state.button "TH71_AP").toOption.any Bool.not) = true := by
    decide +kernel
  rcases Fallible.exists_of_any checked with ⟨engine, loaded, found⟩
  rw [Bool.and_eq_true, decide_eq_true_eq, Option.any_eq_true] at found
  rcases found with ⟨⟨succeed, defined, none⟩, state, live, shown⟩
  rcases Bool.and_eq_true_iff.1 shown with ⟨raised, released⟩
  have alone : engine.box.StandsAlone 10
      { id := 10, lever := some 1, button := some "TH71_AP" } 1 := by
    refine ⟨defined, rfl, rfl, ?_⟩
    rw [none]
    exact nofun
  rcases Fallible.exists_of_any released with ⟨pressed, entered, low⟩
  rw [Bool.not_eq_true'] at low
  rw [low] at entered
  have reached := Live.state?_eq_some.1 live
  exact ⟨engine, state, loaded, reached, entered, raised,
    (lever_relay_latches loaded alone succeed reached).1 raised⟩

end Engine

end SignalBox
