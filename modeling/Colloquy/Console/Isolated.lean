import Colloquy.Console.Program
import Colloquy.Server.Weather

/-! What is outside of a run that reaches no network and starts no other programs: an environment and some
files. A provider cannot be asked there, and a tool server cannot be started. -/

namespace Colloquy

/-! ### Providers -/

/-- The host that the name of a model begins with, in front of two colons. -/
def namedHost? (model : String) : Option String :=
  match model.splitOn "::" with
  | host :: _ :: _ => some host
  | _ => none

/-- Hosts, each with whether it wants a key. -/
def hosts : List (String × Bool) :=
  ["openai", "openai_resp", "gemini", "anthropic", "fireworks", "together", "groq", "mimo", "nebius", "xai", "deepseek",
    "zai", "bigmodel", "aliyun", "cohere"].map (·, true) ++ [("ollama", false)]

/-- How the names of models begin that only their makers host. -/
def hostedFamilies : List String :=
  ["gpt", "chatgpt", "codex", "o1", "o3", "o4", "text-embedding", "claude", "gemini", "command", "embed-", "grok", "glm"]

/-- Further models that are hosted. -/
def hostedModels : List String :=
  ["deepseek-chat", "deepseek-reasoner", "mimo-v2-flash", "llama-3.1-8b-instant", "llama-3.3-70b-versatile",
    "llama-3.1-70b-versatile", "llama-3.1-405b-reasoning", "llama-3.2-1b-preview", "llama-3.2-3b-preview",
    "llama-3.2-11b-vision-preview", "llama-3.2-90b-vision-preview", "llama3-8b-8192", "llama3-70b-8192", "llama-guard-3-8b",
    "meta-llama/llama-4-maverick-17b-128e-instruct", "meta-llama/llama-4-scout-17b-16e-instruct", "mixtral-8x7b-32768",
    "mistral-saba-24b", "gemma-7b-it", "gemma2-9b-it", "deepseek-r1-distill-llama-70b", "moonshotai/kimi-k2-instruct",
    "qwen/qwen3-32b"]

/-- By its name the model is one that is hosted. -/
def isHosted (model : String) : Bool :=
  hostedModels.contains model || (model.splitOn "fireworks").length > 1 ||
    hostedFamilies.any (fun family => model.startsWith family) && !model.startsWith "gpt-oss"

/-- The model is asked at a host who wants a key. -/
def wantsKey (model : String) : Bool := ((namedHost? model).bind (hosts.lookup ·)).getD (isHosted model)

/-- A provider that cannot be reached. One that wants a key is not even tried without it. -/
def unreachableService {m : Type → Type} [Monad m] (hasKey : Bool) : ChatService m := fun r =>
  pure (if wantsKey r.model && !hasKey then .error "" else .ok [.failed ""])

/-! ### The outside -/

namespace Console

/-- The outside with an environment and some files. -/
def outsideWith (logMade : Bool) (environment : Environment) (files : List (String × FileFound)) : Outside Unit where
  environment
  account := none
  logMade
  found path := (files.lookup path).getD .nothing
  service := unreachableService
  serviceState := ()
  builtin limit := .ofLocal { Server.weatherTools Http.unreachable with limit }
  start _ _ := .error (.system "Operation not permitted (os error 1)")

end Console

end Colloquy
