import Colloquy.Decode.Basic
import Colloquy.Tool.Error

/-! What a model is told about a tool, and the outcome of a call. -/

namespace Colloquy

structure ToolSchema where
  name : String
  description : String
  parameters : Json

abbrev ToolOutcome := Except ToolError Json

def ToolSchema.toJson (t : ToolSchema) : Json :=
  .obj [("name", t.name), ("description", t.description), ("parameters", t.parameters)]

def ToolSchema.decode : Json → Decode.Result ToolSchema :=
  Decode.record "ToolSchema" 3 .plain
    (ToolSchema.mk <$> Decode.required "name" 0 Decode.text
      <*> Decode.required "description" 1 Decode.text
      <*> Decode.required "parameters" 2 Decode.anything)

end Colloquy
