import SignalBox.Notice
import SignalBox.Plant.Database
import SignalBox.Signal.Network

namespace SignalBox

/-!
# Master data

Everything that an interlocking is loaded from, and the database of its objects, routes
and throw-out controls.
-/

structure PlantData where
  /-- The neighbours of the plants; those along the modelled line where left out. -/
  adjacency : Option Adjacency := none
  objects : List PlantObject
  routes : List RouteDefinition := []
  throwOuts : List ThrowOut := []
  lockTable : List LockRow := []
  signals : List SignalDefinition := []
  signalTypes : List SignalType := []
deriving Inhabited

namespace Database

/-- The notice of a database that has been built. -/
def builtNotice (plant : Database) : Notice :=
  let statistics := plant.statistics
  .databaseBuilt statistics.plants statistics.objects statistics.routes statistics.throwOuts

end Database

namespace PlantData

/-- The neighbours that the data is read with. -/
def neighbours (data : PlantData) : Adjacency :=
  data.adjacency.getD Adjacency.line

/-- Add all objects, then all routes, then all throw-out controls. -/
def buildDatabase (data : PlantData) : Except PlantFault Database := do
  let empty : Database := { adjacency := data.neighbours }
  let withObjects ← data.objects.foldlM Database.addObject empty
  let withRoutes ← data.routes.foldlM Database.addRoute withObjects
  data.throwOuts.foldlM Database.addThrowOut withRoutes

end PlantData

end SignalBox
