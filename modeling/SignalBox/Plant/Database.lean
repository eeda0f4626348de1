import SignalBox.Ascending
import SignalBox.Error
import SignalBox.Plant.Adjacency

namespace SignalBox

/-!
# The plant database

The objects of all plants with the definitions of their routes and throw-out controls.
The database keeps every accepted addition in the order in which it was made, and every
index is a view of these lists.  A route may be defined again: its last definition is the
one that counts, while the routes of a lever and of a button list every definition that
was accepted.
-/

/-- The definition of a route. -/
structure RouteDefinition where
  id : ObjectId
  /-- The start lever; a route without one is only set by throw-out control. -/
  lever : Option ObjectId := none
  button : Option String := none
  /-- The lever that hands the route to central control. -/
  centralControlLever : Option ObjectId := none
deriving DecidableEq, Repr

/-- How a throw-out control extends to its target. -/
inductive ThrowOutKind where
  /-- The target has a lever; it is held by its XR and YS relays. -/
  | withLever
  /-- The target has no lever; its X relay stands in for one. -/
  | withoutLever
deriving DecidableEq, Repr

/-- A control of one route over another. -/
structure ThrowOut where
  source : ObjectId
  target : ObjectId
  kind : ThrowOutKind := .withLever
  /-- The side of a target that is a direction route. -/
  targetSide : Option Side := none
  /-- The key lever that guards the control. -/
  conditionLever : Option ObjectId := none
  /-- The position of the key lever in which the control acts. -/
  conditionDirection : Option Direction := none
deriving DecidableEq, Repr

structure Database where
  adjacency : Adjacency := {}
  /-- The objects in the order of their addition. -/
  objects : List PlantObject := []
  /-- The accepted definitions of routes in the order of their addition. -/
  definitions : List RouteDefinition := []
  /-- The accepted throw-out controls in the order of their addition. -/
  throwOuts : List ThrowOut := []
deriving DecidableEq, Inhabited

/-- Counts of what a database holds. -/
structure PlantStatistics where
  plants : Nat
  objects : Nat
  routes : Nat
  throwOuts : Nat
deriving DecidableEq, Repr

namespace Database

/-- The object of a number. -/
def object? (plant : Database) (id : ObjectId) : Option PlantObject :=
  plant.objects.find? fun object => object.id == id

/-- The object of a number, which an evaluation cannot do without. -/
def object (plant : Database) (id : ObjectId) : Except Missing PlantObject :=
  match plant.object? id with
  | some object => .ok object
  | none => .error (.object id)

/-- The kind of the object of a number. -/
def kind (plant : Database) (id : ObjectId) : Except Missing ObjectKind :=
  (plant.object id).map PlantObject.kind

/-- The object of a name. -/
def find? (plant : Database) (name : String) : Option PlantObject :=
  plant.objects.find? fun object => object.name == name

/-- The object of a name, if it is of a kind. -/
def findKind? (plant : Database) (name : String) (kind : ObjectKind) : Option PlantObject :=
  (plant.find? name).filter fun object => object.kind == kind

/-- The objects of a kind. -/
def objectsOfKind (plant : Database) (kind : ObjectKind) : List PlantObject :=
  plant.objects.filter fun object => object.kind == kind

/-- The definition of a route: the last one that was added. -/
def route? (plant : Database) (id : ObjectId) : Option RouteDefinition :=
  plant.definitions.reverse.find? fun route => route.id == id

/-- The definition of a route, which an evaluation cannot do without. -/
def definition (plant : Database) (id : ObjectId) : Except Missing RouteDefinition :=
  match plant.route? id with
  | some route => .ok route
  | none => .error (.routeDefinition id)

/-- The numbers of the defined routes, ascending. -/
def routeIds (plant : Database) : List ObjectId :=
  Ascending.ofList (plant.definitions.map RouteDefinition.id)

/-- The routes that were defined to start at a lever. -/
def routesFromLever (plant : Database) (lever : ObjectId) : List ObjectId :=
  (plant.definitions.filter fun route => route.lever == some lever).map RouteDefinition.id

/-- The routes that were defined to end at a button. -/
def routesToButton (plant : Database) (button : String) : List ObjectId :=
  (plant.definitions.filter fun route => route.button == some button).map RouteDefinition.id

/-- The throw-out controls of a source, in the order of their addition. -/
def throwOutsFrom (plant : Database) (source : ObjectId) : List ThrowOut :=
  plant.throwOuts.filter fun control => control.source == source

/-- The throw-out controls of a target, in the order of their addition. -/
def throwOutsInto (plant : Database) (target : ObjectId) : List ThrowOut :=
  plant.throwOuts.filter fun control => control.target == target

def statistics (plant : Database) : PlantStatistics where
  plants := (Ascending.ofList (plant.objects.map PlantObject.plant)).length
  objects := plant.objects.length
  routes := plant.routeIds.length
  throwOuts := plant.throwOuts.length

/-- Check that a number names an object of a kind. -/
def expectKind (plant : Database) (id : ObjectId) (kind : ObjectKind) :
    Except PlantFault Unit :=
  match plant.object? id with
  | none => .error (.unknownId kind id)
  | some object =>
    if object.kind = kind then .ok () else .error (.wrongKind object.name object.kind kind)

/-- Check an optional reference to an object of a kind. -/
def expectKindOf? (plant : Database) (id : Option ObjectId) (kind : ObjectKind) :
    Except PlantFault Unit :=
  match id with
  | none => .ok ()
  | some id => plant.expectKind id kind

/-- Add an object whose number and name are new. -/
def addObject (plant : Database) (object : PlantObject) : Except PlantFault Database :=
  if (plant.object? object.id).isSome then .error (.duplicateId object.id)
  else if (plant.find? object.name).isSome then .error (.duplicateName object.name)
  else .ok { plant with objects := plant.objects ++ [object] }

/-- Add the definition of a route whose object and levers are there. -/
def addRoute (plant : Database) (route : RouteDefinition) : Except PlantFault Database := do
  plant.expectKind route.id .route
  plant.expectKindOf? route.lever .lever
  plant.expectKindOf? route.centralControlLever .routeCentralControlLever
  .ok { plant with definitions := plant.definitions ++ [route] }

/-- Check that an end or the guard of a throw-out control is an object. -/
def expectEnd (plant : Database) (source id : ObjectId) : Except PlantFault Unit :=
  if (plant.object? id).isSome then .ok () else .error (.throwOutEnd source id)

/-- Whether a number is that of a defined route without lever. -/
def isLeverless (plant : Database) (id : ObjectId) : Bool :=
  (plant.route? id).any fun route => route.lever.isNone

/-- Add a throw-out control from a route to an object.  A lever-less control needs a
defined route without lever as its target. -/
def addThrowOut (plant : Database) (control : ThrowOut) : Except PlantFault Database := do
  plant.expectKind control.source .route
  plant.expectEnd control.source control.target
  match control.conditionLever with
  | some lever => plant.expectEnd control.source lever
  | none => .ok ()
  if control.kind = .withoutLever ∧ plant.isLeverless control.target = false then
    .error (.throwOutTarget control.source control.target)
  else
    .ok { plant with throwOuts := plant.throwOuts ++ [control] }

end Database

end SignalBox
