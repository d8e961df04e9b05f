import Colloquy.Config.Basic
import Colloquy.Text.Utf8
import Colloquy.Toml.Printer
import Colloquy.Toml.Reader

/-! The configuration as a file: what a file is read as, and how a configuration is written. -/

namespace Colloquy

/-- What is found at the place of the file. -/
inductive FileFound where
  | nothing
  | directory
  | bytes (content : Text.Bytes)

namespace Config

/-- A named choice may also be given as a table of that one name with nothing in it. -/
def plainChoice (j : Json) : Json :=
  match j with
  | .obj [(name, .obj [])] | .obj [(name, .arr [])] => .str name
  | j => j

/-- The members with one of them changed. -/
def changeMember (key : String) (change : Json → Json) (members : Json.Members) : Json.Members :=
  members.map (fun m => if m.1 = key then (m.1, change m.2) else m)

/-- The limits of a turn as they stand in a file, the choice in them as a plain name. -/
def plainTurn (j : Json) : Json :=
  match j with
  | .obj members => .obj (changeMember "round_limit" plainChoice members)
  | .arr (rounds :: choice :: rest) => .arr (rounds :: plainChoice choice :: rest)
  | j => j

def plain (j : Json) : Json :=
  match j with
  | .obj members => .obj (changeMember "orchestration" plainTurn members)
  | j => j

/-- The sections of a file, each with the number of its fields. -/
def sectionSizes : List (String × Nat) := [("provider", 6), ("orchestration", 6), ("mcp", 3)]

/-- Items beyond the fields of a section are not looked at. -/
def withoutSurplus (size : Nat) : Toml → Toml
  | .array items => .array (items.take size)
  | .tables items => .tables (items.take size)
  | t => t

/-- A document with sections that are no longer than their fields. -/
def trimmed : Toml → Toml
  | .table form entries =>
    .table form (entries.map (fun e => (e.1, (sectionSizes.lookup e.1).elim e.2 (withoutSurplus · e.2))))
  | t => t

def unparsable (reason : String) : Failure := .config s!"Failed to parse config: {reason}"

/-- The configuration in a text; its limits are valid. -/
def ofText (text : String) : Except Failure Config :=
  match (Toml.read? text).bind (fun document => (trimmed document).toJson?) with
  | none => .error (unparsable "not a TOML document")
  | some document => match Config.decode (plain document) with
    | .error fault => .error (unparsable fault.message)
    | .ok config => config.orchestration.validate.map (fun _ => config)

/-- Reads the file; where there is none the defaults hold. -/
def load : FileFound → Except Failure Config
  | .nothing => .ok {}
  | .directory => .error (.config "Failed to read config: Is a directory (os error 21)")
  | .bytes content => match Text.utf8Text content with
    | .error _ => .error (.config "Failed to read config: stream did not contain valid UTF-8")
    | .ok text => ofText text

/-! ### Writing -/

/-- An entry that is left out when there is nothing to write. -/
def optionalEntry (key : String) (value : Option String) : List (String × Toml.Item) :=
  match value with
  | some v => [(key, .text v)]
  | none => []

def providerSection (p : ProviderConfig) : Toml.Section :=
  ⟨["provider"], [("provider_type", .text p.providerType), ("model", .text p.model)] ++ optionalEntry "api_key" p.apiKey ++
    optionalEntry "api_key_env" p.apiKeyEnv ++
    [("max_tokens", .natural p.maxTokens), ("max_request_chars", .natural p.maxRequestChars)]⟩

def turnSection (c : TurnConfig) : Toml.Section :=
  ⟨["orchestration"], [("max_rounds", .natural c.maxRounds), ("round_limit", .text c.roundLimit.name),
    ("offer_tools_on_final_round", .boolean c.offerToolsOnFinalRound), ("parallel_tools", .boolean c.parallelTools),
    ("tool_timeout_secs", .natural c.toolTimeoutSecs)] ++ optionalEntry "system_prompt" c.systemPrompt⟩

def serverSections (s : ServerConfig) : List Toml.Section :=
  [⟨["mcp"], [("command", .text s.command), ("args", .texts s.args)]⟩,
    ⟨["mcp", "env"], s.env.map (fun e => (e.1, .text e.2))⟩]

/-- The text of the file. -/
def fileText (c : Config) : String :=
  Toml.documentText ([providerSection c.provider, turnSection c.orchestration] ++ c.mcp.elim [] serverSections)

end Config

/-! ### Place -/

/-- A name below a directory. -/
def pathBelow (directory name : String) : String :=
  if directory.endsWith "/" then directory ++ name else directory ++ "/" ++ name

/-- The directory of configurations: the one that the desktop's variable names, if it names an absolute
path, else one in the home directory, which is that of the account unless a variable names another. -/
def configDirectory? (env : Environment) (account : Option String) : Option String :=
  let named := (env.lookup "XDG_CONFIG_HOME").filter (·.startsWith "/")
  let home := ((env.lookup "HOME").bind Text.nonEmpty?).or account
  named.or (home.map (pathBelow · ".config"))

/-- Where the file is unless told otherwise. -/
def defaultConfigPath (env : Environment) (account : Option String) : Except Failure String :=
  match configDirectory? env account with
  | some directory => .ok (pathBelow (pathBelow directory "parley") "config.toml")
  | none => .error (.config "Could not find config directory")

end Colloquy
