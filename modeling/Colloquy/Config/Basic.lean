import Colloquy.Config.Provider
import Colloquy.Error

/-! The configuration: provider, limits of a turn, and the optional tool server. -/

namespace Colloquy

/-- What happens when the model still wants tools in the last permitted round. -/
inductive RoundLimit where
  /-- The text that came back is the answer, and the calls are discarded. -/
  | forceAnswer
  | error
deriving DecidableEq, Repr

structure TurnConfig where
  /-- Completion requests permitted in a turn. -/
  maxRounds : Nat := 2
  roundLimit : RoundLimit := .forceAnswer
  /-- Tools are offered in the last permitted round as well. -/
  offerToolsOnFinalRound : Bool := false
  /-- The calls of a batch run at the same time. -/
  parallelTools : Bool := false
  toolTimeoutSecs : Nat := 30
  systemPrompt : Option String := none
deriving DecidableEq, Repr

/-- A tool server started as a child process. -/
structure ServerConfig where
  command : String
  args : List String := []
  /-- Additional environment variables, by name. -/
  env : List (String × String) := []
deriving DecidableEq, Repr

structure Config where
  provider : ProviderConfig := {}
  orchestration : TurnConfig := {}
  mcp : Option ServerConfig := none
deriving DecidableEq, Repr

def TurnConfig.validate (c : TurnConfig) : Except Failure Unit :=
  if c.maxRounds = 0 then .error (.config "max_rounds must be at least 1")
  else if c.toolTimeoutSecs = 0 then .error (.config "tool_timeout_secs must be at least 1")
  else .ok ()

/-! ### JSON form -/

def RoundLimit.known : List (String × RoundLimit) := [("force_answer", .forceAnswer), ("error", .error)]

def RoundLimit.name : RoundLimit → String
  | .forceAnswer => "force_answer"
  | .error => "error"

/-- A member that is left out when there is nothing to write. -/
def Json.optionalMember (key : String) (value : Option String) : Json.Members :=
  match value with
  | some v => [(key, .str v)]
  | none => []

open Decode

def ProviderConfig.decode : Json → Result ProviderConfig :=
  let d : ProviderConfig := {}
  record "ProviderConfig" 6 .plain
    (ProviderConfig.mk <$> defaulted "provider_type" 0 text d.providerType
      <*> defaulted "model" 1 text d.model
      <*> defaulted "api_key" 2 (nullable text) d.apiKey
      <*> defaulted "api_key_env" 3 (nullable text) d.apiKeyEnv
      <*> defaulted "max_tokens" 4 (natural "u32" 32) d.maxTokens
      <*> defaulted "max_request_chars" 5 (natural "usize" 64) d.maxRequestChars)

def ProviderConfig.toJson (p : ProviderConfig) : Json :=
  .obj ([("provider_type", .str p.providerType), ("model", .str p.model)] ++ Json.optionalMember "api_key" p.apiKey
    ++ Json.optionalMember "api_key_env" p.apiKeyEnv
    ++ [("max_tokens", .nat p.maxTokens), ("max_request_chars", .nat p.maxRequestChars)])

def TurnConfig.decode : Json → Result TurnConfig :=
  let d : TurnConfig := {}
  record "OrchestrationConfig" 6 .plain
    (TurnConfig.mk <$> defaulted "max_rounds" 0 (natural "usize" 64) d.maxRounds
      <*> defaulted "round_limit" 1 (choice RoundLimit.known) d.roundLimit
      <*> defaulted "offer_tools_on_final_round" 2 boolean d.offerToolsOnFinalRound
      <*> defaulted "parallel_tools" 3 boolean d.parallelTools
      <*> defaulted "tool_timeout_secs" 4 (natural "u64" 64) d.toolTimeoutSecs
      <*> defaulted "system_prompt" 5 (nullable text) d.systemPrompt)

def TurnConfig.toJson (c : TurnConfig) : Json :=
  .obj ([("max_rounds", .nat c.maxRounds), ("round_limit", .str c.roundLimit.name),
    ("offer_tools_on_final_round", .bool c.offerToolsOnFinalRound), ("parallel_tools", .bool c.parallelTools),
    ("tool_timeout_secs", .nat c.toolTimeoutSecs)] ++ Json.optionalMember "system_prompt" c.systemPrompt)

/-- An object of texts. -/
def decodeTexts : Json → Result (List (String × String))
  | .obj members => members.mapM (fun m => (text m.2).map (m.1, ·))
  | j => wrongKind j .map

def ServerConfig.decode : Json → Result ServerConfig :=
  record "McpConfig" 3 .plain
    (ServerConfig.mk <$> required "command" 0 text
      <*> defaulted "args" 1 (list text) []
      <*> defaulted "env" 2 decodeTexts [])

def ServerConfig.toJson (c : ServerConfig) : Json :=
  .obj [("command", .str c.command), ("args", .arr (c.args.map .str)), ("env", .obj (c.env.map (fun m => (m.1, .str m.2))))]

def Config.decode : Json → Result Config :=
  record "Config" 3 .plain
    (Config.mk <$> defaulted "provider" 0 ProviderConfig.decode {}
      <*> defaulted "orchestration" 1 TurnConfig.decode {}
      <*> optional "mcp" 2 ServerConfig.decode)

def Config.toJson (c : Config) : Json :=
  .obj ([("provider", c.provider.toJson), ("orchestration", c.orchestration.toJson)] ++
    match c.mcp with
    | some m => [("mcp", m.toJson)]
    | none => [])

end Colloquy
