namespace SignalBox

/-!
# Engine configuration
-/

/-- What the engine itself can be told. -/
structure EngineConfig where
  /-- The depth of the next-signal records and of the aspect look-ahead. -/
  maxSignalDepth : Nat := 4
  /-- Skip the known gaps of the master data instead of failing. -/
  toleratesGaps : Bool := true
  /-- The plants whose rows are loaded; all plants where it is left out. -/
  plantFilter : Option (List String) := none
deriving DecidableEq, Repr, Inhabited

/-- Whether the rows of a plant are loaded. -/
def EngineConfig.loads (config : EngineConfig) (plant : String) : Bool :=
  config.plantFilter.all fun plants => plants.contains plant

end SignalBox
