import Colloquy.Completion.Chat
import Colloquy.Completion.Log
import Colloquy.Completion.Stream
import Colloquy.Config.Provider

/-! The client of a completion provider. A request that is over the budget is refused before the
provider hears of it; any other is put to the provider, and the interaction is logged. -/

namespace Colloquy

/-- How a provider answers: with a stream of events, or not at all, for a reason. -/
abbrev ChatService (m : Type → Type) := ChatRequest → m (Except String (List StreamEvent))

structure ProviderClient where
  provider : ProviderConfig
  ids : IdSupply

namespace ProviderClient

/-- The chat that is sent for a snapshot. -/
def chatRequest (p : ProviderConfig) (snapshot : Snapshot) (tools : List ToolSchema) : ChatRequest :=
  { model := p.model, maxTokens := p.maxTokens, messages := chatOf snapshot.messages, tools }

/-- The completion in a provider's answer. -/
def outcome (ids : IdSupply) : Except String (List StreamEvent) → CompletionResult × IdSupply
  | .error reason => (.error (.unreachable reason), ids)
  | .ok events => completionOf ids events

/-- What is logged of an interaction. -/
def logEntry (p : ProviderConfig) (snapshot : Snapshot) (tools : List ToolSchema) (result : CompletionResult) : LogEntry :=
  { model := p.model, provider := some p.providerType, messages := snapshot.messages, tools,
    outcome := result.toOption,
    error := match result with
      | .ok _ => none
      | .error e => some e.message }

/-- What comes of a request: the result, what is logged, and the client afterwards. -/
structure Exchange where
  result : CompletionResult
  logged : Option LogEntry
  client : ProviderClient

variable {m : Type → Type} [Monad m]

def request (service : ChatService m) (c : ProviderClient) (snapshot : Snapshot) (tools : List ToolSchema) : m Exchange :=
  match checkBudget snapshot.messages tools c.provider.maxRequestChars with
  | .error e => pure ⟨.error e, none, c⟩
  | .ok () => do
    let (result, ids) := outcome c.ids (← service (chatRequest c.provider snapshot tools))
    return ⟨result, some (logEntry c.provider snapshot tools result), { c with ids }⟩

end ProviderClient

end Colloquy
