namespace SignalBox

/-!
# Objects of a plant

Everything an interlocking table can name: routes, levers, switching machines, track
circuits and direction routes.  An object is known to the evaluators by its number and to
the tables by its name.
-/

/-- The number of an object. -/
abbrev ObjectId := Nat

inductive ObjectKind where
  | route
  | lever
  | switchingMachine
  | trackCircuit
  | directionRoute
  | directionSelfControlLever
  | routeCentralControlLever
deriving DecidableEq, Repr

/-- The words for a kind of object in messages. -/
def ObjectKind.description : ObjectKind → String
  | route => "route"
  | lever => "lever"
  | switchingMachine => "switching machine"
  | trackCircuit => "track circuit"
  | directionRoute => "direction route"
  | directionSelfControlLever => "direction self-control lever"
  | routeCentralControlLever => "route central-control lever"

/-- A named object, with the plant that owns it. -/
structure PlantObject where
  id : ObjectId
  name : String
  kind : ObjectKind
  plant : String
deriving DecidableEq, Repr

end SignalBox
