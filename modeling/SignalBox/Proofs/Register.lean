import SignalBox.Proofs.Lists
import SignalBox.Proofs.RouteIndices

namespace SignalBox

/-!
# A register with indices

A database answers every query from its lists of additions.  A register keeps tables beside them:
objects by number, numbers by name, definitions by route, routes by lever and by button, and the
places of controls by source and by target.  What it is asked is looked up there.

Its calls are written as steps on one store.  A check that fails ends a call with the store as it
is at that moment, so whether a refused call has left a trace is a matter of the order of the
steps.  `Mirrors` says that every index agrees with the lists of a database.  A call and an
addition that start from there accept the same and refuse the same for the same reason; accepted,
they end there, and refused, neither has changed anything.
-/

/-! ## Lists by key -/

namespace Table

variable {κ α : Type} [DecidableEq κ]

/-- Put a value behind those of a key. -/
def push (table : Table κ (List α)) (key : κ) (value : α) : Table κ (List α) :=
  table.insert key (table.listed key ++ [value])

theorem listed_push (table : Table κ (List α)) (key other : κ) (value : α) :
    (table.push key value).listed other =
      table.listed other ++ if key = other then [value] else [] := by
  rw [push, listed_insert]
  by_cases same : key = other
  · rw [if_pos same, if_pos same, same]
  · rw [if_neg same, if_neg same, List.append_nil]

/-- Put a value behind those of a key, if there is a key. -/
def pushAt? (table : Table κ (List α)) (key : Option κ) (value : α) : Table κ (List α) :=
  match key with
  | some key => table.push key value
  | none => table

theorem listed_pushAt? (table : Table κ (List α)) (key : Option κ) (other : κ) (value : α) :
    (table.pushAt? key value).listed other =
      table.listed other ++ if key = some other then [value] else [] := by
  cases key with
  | none => simp [pushAt?]
  | some key => simp only [pushAt?, listed_push, Option.some.injEq]

end Table

/-! ## Places in a list -/

/-- The places of the items that pass a test. -/
def placesOf {α : Type} (test : α → Bool) (items : List α) : List Nat :=
  (items.zipIdx.filter fun entry => test entry.1).map Prod.snd

theorem placesOf_append {α : Type} (test : α → Bool) (items : List α) (last : α) :
    placesOf test (items ++ [last]) =
      placesOf test items ++ if test last then [items.length] else [] := by
  unfold placesOf
  rw [List.zipIdx_append, List.filter_append, List.map_append, Nat.zero_add,
    List.zipIdx_singleton, List.filter_cons, List.filter_nil]
  by_cases passed : test last = true
  · rw [if_pos passed, if_pos passed]
    rfl
  · rw [if_neg passed, if_neg passed]
    rfl

/-- What stands at these places are the items that pass the test, in their order; no place is
past the end. -/
theorem mapM_placesOf {α : Type} (test : α → Bool) (items : List α) :
    (placesOf test items).mapM (fun place => items[place]?) = some (items.filter test) := by
  have read : ∀ entry, entry ∈ items.zipIdx.filter (fun entry => test entry.1) →
      items[entry.2]? = some entry.1 := fun entry member =>
    List.mem_zipIdx_iff_getElem?.1 (List.mem_filter.1 member).1
  have items_of_entries :
      (items.zipIdx.filter fun entry => test entry.1).map Prod.fst = items.filter test := by
    rw [← Function.comp_def test Prod.fst, ← List.filter_map, List.zipIdx_map_fst]
  rw [placesOf, List.mapM_map, ← items_of_entries]
  exact Lists.mapM_eq_some_map read

/-- Objects, definitions and controls with the indices by which they are found. -/
structure Register where
  adjacency : Adjacency := {}
  objects : Table ObjectId PlantObject := .empty
  numbers : Table String ObjectId := .empty
  definitions : Table ObjectId RouteDefinition := .empty
  byLever : Table ObjectId (List ObjectId) := .empty
  byButton : Table String (List ObjectId) := .empty
  throwOuts : List ThrowOut := []
  /-- The places of the controls of a source among all controls. -/
  bySource : Table ObjectId (List Nat) := .empty
  byTarget : Table ObjectId (List Nat) := .empty

namespace Register

/-! ## Queries -/

def object? (register : Register) (id : ObjectId) : Option PlantObject :=
  register.objects.get? id

def find? (register : Register) (name : String) : Option PlantObject :=
  (register.numbers.get? name).bind register.objects.get?

def objectsOfKind (register : Register) (kind : ObjectKind) : List PlantObject :=
  register.objects.values.filter fun object => object.kind == kind

def route? (register : Register) (id : ObjectId) : Option RouteDefinition :=
  register.definitions.get? id

def routeIds (register : Register) : List ObjectId :=
  Ascending.ofList register.definitions.keys

def routesFromLever (register : Register) (lever : ObjectId) : List ObjectId :=
  register.byLever.listed lever

def routesToButton (register : Register) (button : String) : List ObjectId :=
  register.byButton.listed button

/-- The controls of a source.  There is no answer if one of their places is past the end. -/
def throwOutsFrom (register : Register) (source : ObjectId) : Option (List ThrowOut) :=
  (register.bySource.listed source).mapM fun place => register.throwOuts[place]?

def throwOutsInto (register : Register) (target : ObjectId) : Option (List ThrowOut) :=
  (register.byTarget.listed target).mapM fun place => register.throwOuts[place]?

def statistics (register : Register) : PlantStatistics where
  plants := (Ascending.ofList (register.objects.values.map PlantObject.plant)).length
  objects := register.objects.size
  routes := register.definitions.size
  throwOuts := register.throwOuts.length

/-! ## Calls -/

/-- Steps on a register, each of which may end the call. -/
abbrev Call := ExceptT PlantFault (StateM Register)

/-- A step that looks at the register and changes nothing. -/
def check (test : Register → Except PlantFault Unit) : Call Unit :=
  ExceptT.mk fun register => (test register, register)

/-- A step that cannot fail. -/
def write (change : Register → Register) : Call Unit :=
  ExceptT.mk fun register => (.ok (), change register)

def expectKind (id : ObjectId) (kind : ObjectKind) (register : Register) :
    Except PlantFault Unit :=
  match register.objects.get? id with
  | none => .error (.unknownId kind id)
  | some object =>
    if object.kind = kind then .ok () else .error (.wrongKind object.name object.kind kind)

def expectKindOf? (id : Option ObjectId) (kind : ObjectKind) (register : Register) :
    Except PlantFault Unit :=
  match id with
  | none => .ok ()
  | some id => register.expectKind id kind

def expectEnd (source id : ObjectId) (register : Register) : Except PlantFault Unit :=
  if register.objects.contains id then .ok () else .error (.throwOutEnd source id)

def expectGuard (control : ThrowOut) (register : Register) : Except PlantFault Unit :=
  match control.conditionLever with
  | some lever => register.expectEnd control.source lever
  | none => .ok ()

/-- Check that the target of a lever-less control is a defined route without lever. -/
def expectLeverless (control : ThrowOut) (register : Register) : Except PlantFault Unit :=
  if control.kind = .withoutLever ∧
      ((register.definitions.get? control.target).any fun route => route.lever.isNone) = false then
    .error (.throwOutTarget control.source control.target)
  else .ok ()

def addObject (object : PlantObject) : Call Unit := do
  check fun register =>
    if register.objects.contains object.id then .error (.duplicateId object.id) else .ok ()
  check fun register =>
    if register.numbers.contains object.name then .error (.duplicateName object.name) else .ok ()
  write fun register =>
    { register with numbers := register.numbers.insert object.name object.id }
  write fun register => { register with objects := register.objects.insert object.id object }

def addRoute (route : RouteDefinition) : Call Unit := do
  check (expectKind route.id .route)
  check (expectKindOf? route.lever .lever)
  check (expectKindOf? route.centralControlLever .routeCentralControlLever)
  write fun register =>
    { register with byLever := register.byLever.pushAt? route.lever route.id }
  write fun register =>
    { register with byButton := register.byButton.pushAt? route.button route.id }
  write fun register =>
    { register with definitions := register.definitions.insert route.id route }

/-- The place of a new control is the number of those that are there, in both indices. -/
def addThrowOut (control : ThrowOut) : Call Unit := do
  check (expectKind control.source .route)
  check (expectEnd control.source control.target)
  check (expectGuard control)
  check (expectLeverless control)
  write fun register =>
    { register with bySource := register.bySource.push control.source register.throwOuts.length }
  write fun register =>
    { register with byTarget := register.byTarget.push control.target register.throwOuts.length }
  write fun register => { register with throwOuts := register.throwOuts ++ [control] }

/-- The outcome of one addition, and the register it leaves behind. -/
def call (register : Register) (addition : Addition) : Except PlantFault Unit × Register :=
  match addition with
  | .object added => (addObject added).run.run register
  | .route added => (addRoute added).run.run register
  | .throwOut added => (addThrowOut added).run.run register

/-- The register that some additions make of the empty one, whether or not all of them are
accepted. -/
def ofAdditions (adjacency : Adjacency) (additions : List Addition) : Register :=
  additions.foldl (fun register addition => (register.call addition).2) { adjacency := adjacency }

theorem run_check_bind {α : Type} (test : Register → Except PlantFault Unit)
    (next : Unit → Call α) (register : Register) :
    (check test >>= next).run.run register =
      match test register with
      | .ok () => (next ()).run.run register
      | .error fault => (.error fault, register) := by
  have ran : (check test).run.run register = (test register, register) := rfl
  rw [ExceptT.run_bind, StateT.run_bind, ran]
  cases test register with
  | ok value => rfl
  | error fault => rfl

/-! ## A register and the lists of a database -/

/-- The register after the writes of an accepted object. -/
def withObject (register : Register) (object : PlantObject) : Register :=
  { register with
    objects := register.objects.insert object.id object
    numbers := register.numbers.insert object.name object.id }

/-- The register after the writes of an accepted definition. -/
def withRoute (register : Register) (route : RouteDefinition) : Register :=
  { register with
    definitions := register.definitions.insert route.id route
    byLever := register.byLever.pushAt? route.lever route.id
    byButton := register.byButton.pushAt? route.button route.id }

/-- The register after the writes of an accepted control. -/
def withThrowOut (register : Register) (control : ThrowOut) : Register :=
  { register with
    throwOuts := register.throwOuts ++ [control]
    bySource := register.bySource.push control.source register.throwOuts.length
    byTarget := register.byTarget.push control.target register.throwOuts.length }

/-- Every index of a register agrees with the lists of a database. -/
structure Mirrors (register : Register) (plant : Database) : Prop where
  adjacency : register.adjacency = plant.adjacency
  objects : register.objects.values = plant.objects
  object? : ∀ id, register.objects.get? id = plant.object? id
  number : ∀ name, register.numbers.get? name = (plant.find? name).map PlantObject.id
  route? : ∀ id, register.definitions.get? id = plant.route? id
  byLever : ∀ lever, register.byLever.listed lever = plant.routesFromLever lever
  byButton : ∀ button, register.byButton.listed button = plant.routesToButton button
  throwOuts : register.throwOuts = plant.throwOuts
  bySource : ∀ source, register.bySource.listed source =
    placesOf (fun control => control.source == source) plant.throwOuts
  byTarget : ∀ target, register.byTarget.listed target =
    placesOf (fun control => control.target == target) plant.throwOuts

theorem mirrors_empty (adjacency : Adjacency) :
    Mirrors { adjacency := adjacency } { adjacency := adjacency } := by
  constructor <;> intros <;> rfl

/-! ## Steps beside an addition -/

/-- A call ends as an addition to a database does: refused for the same reason with the register
as it was, or accepted with the later register. -/
def Follows (call : Call Unit) (added : Except PlantFault Database)
    (register later : Register) : Prop :=
  call.run.run register =
    match added with
    | .ok _ => (.ok (), later)
    | .error fault => (.error fault, register)

section Follows

variable {register later : Register} {test : Register → Except PlantFault Unit}
  {next : Unit → Call Unit}

theorem follows_check_bind {answer : Except PlantFault Unit}
    {rest : Unit → Except PlantFault Database} (tested : test register = answer)
    (goes : Follows (next ()) (rest ()) register later) :
    Follows (check test >>= next) (answer >>= rest) register later := by
  unfold Follows
  rw [run_check_bind, tested]
  cases answer with
  | error fault => rfl
  | ok => exact goes

/-- A refusal that an addition makes by a condition is a check of a call. -/
theorem follows_refuse_bind {refused : Prop} [Decidable refused] {fault : PlantFault}
    {added : Except PlantFault Database}
    (tested : test register = if refused then .error fault else .ok ())
    (goes : Follows (next ()) added register later) :
    Follows (check test >>= next) (if refused then .error fault else added) register later := by
  unfold Follows
  rw [run_check_bind, tested]
  by_cases met : refused
  · rw [if_pos met, if_pos met]
  · rw [if_neg met, if_neg met]
    exact goes

theorem follows_write {call : Call Unit} {plant : Database}
    (written : call.run.run register = (.ok (), later)) :
    Follows call (.ok plant) register later :=
  written

end Follows

namespace Mirrors

variable {register : Register} {plant : Database}

/-! ### Checks -/

theorem contains_id (mirrors : register.Mirrors plant) (id : ObjectId) :
    register.objects.contains id = (plant.object? id).isSome := by
  rw [Table.contains, mirrors.object?]

theorem contains_name (mirrors : register.Mirrors plant) (name : String) :
    register.numbers.contains name = (plant.find? name).isSome := by
  rw [Table.contains, mirrors.number, Option.isSome_map]

theorem expectKind_eq (mirrors : register.Mirrors plant) (id : ObjectId) (kind : ObjectKind) :
    register.expectKind id kind = plant.expectKind id kind := by
  have found := mirrors.object? id
  cases known : plant.object? id with
  | none => rw [expectKind, Database.expectKind, found, known]
  | some object => rw [expectKind, Database.expectKind, found, known]

theorem expectKindOf?_eq (mirrors : register.Mirrors plant) (id : Option ObjectId)
    (kind : ObjectKind) : register.expectKindOf? id kind = plant.expectKindOf? id kind := by
  cases id with
  | none => rfl
  | some id => exact mirrors.expectKind_eq id kind

theorem expectEnd_eq (mirrors : register.Mirrors plant) (source id : ObjectId) :
    register.expectEnd source id = plant.expectEnd source id := by
  rw [expectEnd, Database.expectEnd, mirrors.contains_id]

theorem expectGuard_eq (mirrors : register.Mirrors plant) (control : ThrowOut) :
    register.expectGuard control =
      match control.conditionLever with
      | some lever => plant.expectEnd control.source lever
      | none => .ok () := by
  cases guarded : control.conditionLever with
  | none => simp only [expectGuard, guarded]
  | some lever => simp only [expectGuard, guarded, mirrors.expectEnd_eq]

theorem expectLeverless_eq (mirrors : register.Mirrors plant) (control : ThrowOut) :
    register.expectLeverless control =
      if control.kind = .withoutLever ∧ plant.isLeverless control.target = false then
        .error (.throwOutTarget control.source control.target)
      else .ok () := by
  rw [expectLeverless, mirrors.route?, Database.isLeverless]

/-! ### Writes -/

theorem withObject (mirrors : register.Mirrors plant) {object : PlantObject}
    (number : plant.object? object.id = none) (name : plant.find? object.name = none) :
    (register.withObject object).Mirrors { plant with objects := plant.objects ++ [object] } := by
  refine { mirrors with objects := ?_, object? := ?_, number := ?_ }
  · have absent : object.id ∉ register.objects.keys := by
      rw [Table.mem_keys_iff_get?, mirrors.object?, number]
      rintro ⟨other, impossible⟩
      cases impossible
    rw [Register.withObject, Table.values, Table.entries_insert_of_not_mem absent, List.map_append,
      ← mirrors.objects]
    rfl
  · intro id
    rw [Register.withObject, Table.get?_insert, Database.object?, List.find?_append]
    by_cases same : object.id = id
    · rw [if_pos same, ← same, show plant.objects.find? _ = none from number]
      simp
    · rw [if_neg same, mirrors.object?, Database.object?]
      simp [same]
  · intro other
    rw [Register.withObject, Table.get?_insert, Database.find?, List.find?_append]
    by_cases same : object.name = other
    · rw [if_pos same, ← same, show plant.objects.find? _ = none from name]
      simp
    · rw [if_neg same, mirrors.number, Database.find?]
      simp [same]

theorem withRoute (mirrors : register.Mirrors plant) (route : RouteDefinition) :
    (register.withRoute route).Mirrors
      { plant with definitions := plant.definitions ++ [route] } := by
  refine { mirrors with route? := ?_, byLever := ?_, byButton := ?_ }
  · intro id
    rw [Register.withRoute, Table.get?_insert, Database.route?, List.reverse_concat,
      List.find?_cons]
    by_cases same : route.id = id
    · rw [if_pos same, beq_iff_eq.2 same]
    · rw [if_neg same, beq_eq_false_iff_ne.2 same, mirrors.route?, Database.route?]
  · intro lever
    rw [Register.withRoute, Table.listed_pushAt?, mirrors.byLever, Database.routesFromLever,
      Database.routesFromLever, List.filter_append, List.map_append]
    by_cases starts : route.lever = some lever <;> simp [starts]
  · intro button
    rw [Register.withRoute, Table.listed_pushAt?, mirrors.byButton, Database.routesToButton,
      Database.routesToButton, List.filter_append, List.map_append]
    by_cases ends : route.button = some button <;> simp [ends]

theorem withThrowOut (mirrors : register.Mirrors plant) (control : ThrowOut) :
    (register.withThrowOut control).Mirrors
      { plant with throwOuts := plant.throwOuts ++ [control] } := by
  refine { mirrors with throwOuts := ?_, bySource := ?_, byTarget := ?_ }
  · rw [Register.withThrowOut, mirrors.throwOuts]
  · intro source
    rw [Register.withThrowOut, Table.listed_push, mirrors.bySource, placesOf_append,
      mirrors.throwOuts]
    simp only [beq_iff_eq]
  · intro target
    rw [Register.withThrowOut, Table.listed_push, mirrors.byTarget, placesOf_append,
      mirrors.throwOuts]
    simp only [beq_iff_eq]

/-! ### Calls -/

theorem follows_addObject (mirrors : register.Mirrors plant) (object : PlantObject) :
    Follows (addObject object) (plant.addObject object) register (register.withObject object) := by
  refine follows_refuse_bind ?_ (follows_refuse_bind ?_ (follows_write rfl))
  · rw [mirrors.contains_id]
  · rw [mirrors.contains_name]

theorem follows_addRoute (mirrors : register.Mirrors plant) (route : RouteDefinition) :
    Follows (addRoute route) (plant.addRoute route) register (register.withRoute route) :=
  follows_check_bind (mirrors.expectKind_eq _ _)
    (follows_check_bind (mirrors.expectKindOf?_eq _ _)
      (follows_check_bind (mirrors.expectKindOf?_eq _ _) (follows_write rfl)))

theorem follows_addThrowOut (mirrors : register.Mirrors plant) (control : ThrowOut) :
    Follows (addThrowOut control) (plant.addThrowOut control) register
      (register.withThrowOut control) := by
  refine follows_check_bind (mirrors.expectKind_eq _ _)
    (follows_check_bind (mirrors.expectEnd_eq _ _) ?_)
  have guard := mirrors.expectGuard_eq control
  cases guarded : control.conditionLever with
  | none =>
    rw [guarded] at guard
    exact follows_check_bind guard
      (follows_refuse_bind (mirrors.expectLeverless_eq control) (follows_write rfl))
  | some lever =>
    rw [guarded] at guard
    exact follows_check_bind guard
      (follows_refuse_bind (mirrors.expectLeverless_eq control) (follows_write rfl))

/-- A register and a database accept the same and refuse the same for the same reason.  Accepted,
an addition keeps every index in agreement; refused, it leaves the register as it was. -/
theorem call_eq (mirrors : register.Mirrors plant) (addition : Addition) :
    match plant.add addition with
    | .ok next => ∃ later, register.call addition = (.ok (), later) ∧ later.Mirrors next
    | .error fault => register.call addition = (.error fault, register) := by
  cases addition with
  | object object =>
    rw [Database.add, call, mirrors.follows_addObject object]
    cases added : plant.addObject object with
    | error fault => rfl
    | ok next =>
      rcases Database.addObject_eq_ok.1 added with ⟨number, name, rfl⟩
      exact ⟨_, rfl, mirrors.withObject number name⟩
  | route route =>
    rw [Database.add, call, mirrors.follows_addRoute route]
    cases added : plant.addRoute route with
    | error fault => rfl
    | ok next =>
      rcases Database.addRoute_eq_ok.1 added with ⟨_, _, _, rfl⟩
      exact ⟨_, rfl, mirrors.withRoute route⟩
  | throwOut control =>
    rw [Database.add, call, mirrors.follows_addThrowOut control]
    cases added : plant.addThrowOut control with
    | error fault => rfl
    | ok next =>
      rcases Database.addThrowOut_eq_ok.1 added with ⟨_, _, _, _, rfl⟩
      exact ⟨_, rfl, mirrors.withThrowOut control⟩

end Mirrors

/-- Additions in any order, of which each is accepted or refused, keep a register in agreement
with a database. -/
theorem mirrors_ofAdditions (adjacency : Adjacency) (additions : List Addition) :
    (ofAdditions adjacency additions).Mirrors (Database.ofAdditions adjacency additions) := by
  have kept : ∀ (additions : List Addition) (register : Register) (plant : Database),
      register.Mirrors plant →
        (additions.foldl (fun register addition => (register.call addition).2) register).Mirrors
          (additions.foldl Database.attempt plant) := by
    intro additions
    induction additions with
    | nil => exact fun register plant mirrors => mirrors
    | cons addition rest inductionHypothesis =>
      intro register plant mirrors
      have called := mirrors.call_eq addition
      have agrees : (register.call addition).2.Mirrors (plant.attempt addition) := by
        unfold Database.attempt
        cases added : plant.add addition with
        | error fault =>
          rw [added] at called
          rw [called]
          exact mirrors
        | ok next =>
          rw [added] at called
          rcases called with ⟨later, accepted, agrees⟩
          rw [accepted]
          exact agrees
      exact inductionHypothesis _ _ agrees
  exact kept additions _ _ (mirrors_empty adjacency)

/-! ## What a register answers -/

/-- Every query of a register has the answer of a database.  A table does not say in which order
it holds its objects. -/
structure Answers (register : Register) (plant : Database) : Prop where
  adjacency : register.adjacency = plant.adjacency
  object? : ∀ id, register.object? id = plant.object? id
  find? : ∀ name, register.find? name = plant.find? name
  objectsOfKind : ∀ kind, (register.objectsOfKind kind).Perm (plant.objectsOfKind kind)
  route? : ∀ id, register.route? id = plant.route? id
  routeIds : register.routeIds = plant.routeIds
  routesFromLever : ∀ lever, register.routesFromLever lever = plant.routesFromLever lever
  routesToButton : ∀ button, register.routesToButton button = plant.routesToButton button
  throwOutsFrom : ∀ source, register.throwOutsFrom source = some (plant.throwOutsFrom source)
  throwOutsInto : ∀ target, register.throwOutsInto target = some (plant.throwOutsInto target)
  statistics : register.statistics = plant.statistics

namespace Mirrors

variable {register : Register} {plant : Database}

theorem find?_eq (mirrors : register.Mirrors plant) (consistent : plant.Consistent)
    (name : String) : register.find? name = plant.find? name := by
  rw [Register.find?, mirrors.number]
  cases found : plant.find? name with
  | none => rfl
  | some object =>
    rw [Option.map_some, Option.bind_some, mirrors.object?]
    exact consistent.numbered object (List.mem_of_find?_eq_some found)

theorem routeIds_eq (mirrors : register.Mirrors plant) : register.routeIds = plant.routeIds := by
  refine Ascending.ofList_congr fun id => ?_
  rw [Table.mem_keys_iff_get?, List.mem_map]
  simp only [mirrors.route?]
  constructor
  · rintro ⟨route, found⟩
    exact ⟨route, Database.mem_definitions_of_route? found⟩
  · rintro ⟨route, accepted, rfl⟩
    rcases Database.route?_or_replaces accepted with current | ⟨later, replaces⟩
    · exact ⟨route, current⟩
    · exact ⟨later, replaces.current⟩

theorem statistics_eq (mirrors : register.Mirrors plant) :
    register.statistics = plant.statistics := by
  have routes : register.definitions.size = plant.routeIds.length := by
    have distinct : register.definitions.keys.Nodup := register.definitions.nodup
    rw [← mirrors.routeIds_eq, routeIds, (Ascending.ofList_perm distinct).length_eq, Table.size,
      Table.keys, List.length_map]
  have objects : register.objects.size = plant.objects.length := by
    rw [← mirrors.objects, Table.size, Table.values, List.length_map]
  rw [Register.statistics, Database.statistics, mirrors.objects, objects, routes,
    mirrors.throwOuts]

theorem answers (mirrors : register.Mirrors plant) (consistent : plant.Consistent) :
    register.Answers plant where
  adjacency := mirrors.adjacency
  object? := mirrors.object?
  find? := mirrors.find?_eq consistent
  objectsOfKind kind := by
    rw [Register.objectsOfKind, mirrors.objects]
    exact List.Perm.refl _
  route? := mirrors.route?
  routeIds := mirrors.routeIds_eq
  routesFromLever := mirrors.byLever
  routesToButton := mirrors.byButton
  throwOutsFrom source := by
    rw [Register.throwOutsFrom, mirrors.bySource, mirrors.throwOuts]
    exact mapM_placesOf _ plant.throwOuts
  throwOutsInto target := by
    rw [Register.throwOutsInto, mirrors.byTarget, mirrors.throwOuts]
    exact mapM_placesOf _ plant.throwOuts
  statistics := mirrors.statistics_eq

end Mirrors

end Register

end SignalBox
