import Colloquy.Completion.Provider
import Colloquy.Completion.Scripted

/-! The assistant of a session: the model of a provider, or an echo where there is no connection. -/

namespace Colloquy.Console

/-- Who answers requests for completions. -/
inductive Assistant where
  /-- Echoes, without a connection. -/
  | offline (client : ScriptedClient)
  | provider (client : ProviderClient)

namespace Assistant

def model : Assistant → String
  | .offline _ => ScriptedClient.modelName
  | .provider c => c.provider.model

variable {ω : Type}

/-- Asks for a completion. `ω` is the state of the service behind a provider. -/
def ask (service : ChatService (StateM ω)) (snapshot : Snapshot) (tools : List ToolSchema) :
    Assistant × ω → CompletionResult × Assistant × ω
  | (.offline c, s) =>
    let (result, c) := c.request snapshot tools
    (result, .offline c, s)
  | (.provider c, s) =>
    let (e, s) := (c.request service snapshot tools).run s
    (e.result, .provider e.client, s)

end Assistant

end Colloquy.Console
