import SignalBox.Config
import SignalBox.Json.Decode

namespace SignalBox
namespace Document

/-!
# Engine configuration as a document
-/

open Json (Decoder Record)
open Json.Record (decoder defaulting)

/-- The fields of an engine configuration; all of them can be left out. -/
def engineRecord : Record EngineConfig := do
  let default : EngineConfig := {}
  let maxSignalDepth ←
    defaulting "max_signal_depth" default.maxSignalDepth (Decoder.natural 64)
  let toleratesGaps ←
    defaulting "tolerate_known_data_gaps" default.toleratesGaps Decoder.bool
  let plantFilter ←
    defaulting "plant_filter" default.plantFilter
      (Decoder.nullable (Decoder.list Decoder.string))
  pure { maxSignalDepth, toleratesGaps, plantFilter }

def engineConfig : Decoder EngineConfig :=
  decoder engineRecord

def ofEngineConfig (config : EngineConfig) : Json :=
  .object
    [("max_signal_depth", .ofNat config.maxSignalDepth),
     ("tolerate_known_data_gaps", .bool config.toleratesGaps),
     ("plant_filter", .ofOption (.ofList .string) config.plantFilter)]

end Document
end SignalBox
