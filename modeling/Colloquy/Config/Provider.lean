import Colloquy.Decode.Basic
import Colloquy.Text.Blank

/-! Settings of the completion provider, and the rules for its API key. -/

namespace Colloquy

structure ProviderConfig where
  providerType : String := "openai"
  model : String := "gpt-4o-mini"
  apiKey : Option String := none
  /-- The environment variable that holds the key. -/
  apiKeyEnv : Option String := some "OPENAI_API_KEY"
  maxTokens : Nat := 1024
  /-- Larger requests are refused locally. -/
  maxRequestChars : Nat := 200000
deriving DecidableEq, Repr

/-- Environment variables by name. -/
abbrev Environment := List (String × String)

/-- What is known of a provider type: the model used when none is given, and the variable that
holds its key by convention. -/
structure ProviderFacts where
  model : String
  keyVariable : String
deriving DecidableEq, Repr

def providerFacts? : String → Option ProviderFacts
  | "openai" => some ⟨"gpt-4o-mini", "OPENAI_API_KEY"⟩
  | "anthropic" => some ⟨"claude-3-5-haiku-latest", "ANTHROPIC_API_KEY"⟩
  | "gemini" | "google" => some ⟨"gemini-2.0-flash", "GEMINI_API_KEY"⟩
  | "groq" => some ⟨"llama-3.1-8b-instant", "GROQ_API_KEY"⟩
  | "deepseek" => some ⟨"deepseek-chat", "DEEPSEEK_API_KEY"⟩
  | "xai" | "grok" => some ⟨"grok-3-mini", "XAI_API_KEY"⟩
  | _ => none

def defaultModel? (providerType : String) : Option String := (providerFacts? providerType).map (·.model)

def defaultKeyVariable? (providerType : String) : Option String := (providerFacts? providerType).map (·.keyVariable)

namespace ProviderConfig

/-- The variable that the key is looked up in: the one named, else the conventional one. -/
def keyVariable? (p : ProviderConfig) : Option String := p.apiKeyEnv.or (defaultKeyVariable? p.providerType)

/-- The API key: the one given, unless it is empty, else the non-empty value of a variable. -/
def key? (p : ProviderConfig) (env : Environment) : Option String :=
  (p.apiKey.bind Text.nonEmpty?).or ((p.keyVariable?.bind (fun name => List.lookup name env)).bind Text.nonEmpty?)

/-- Points at another provider, with its default model and its conventional key variable. -/
def switchTo (p : ProviderConfig) (providerType : String) : ProviderConfig :=
  if p.providerType = providerType then p
  else { p with
    providerType
    apiKey := none
    apiKeyEnv := none
    model := (defaultModel? providerType).getD p.model }

end ProviderConfig

end Colloquy
