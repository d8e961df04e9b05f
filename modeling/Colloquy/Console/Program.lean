import Colloquy.Config.File
import Colloquy.Console.Assistant
import Colloquy.Console.LogFile
import Colloquy.Console.Session
import Colloquy.Console.Tooling

/-! A run of the program: the command line is read, the configuration loaded and changed by it, the
tools and the source of completions are made ready, and then the session at the prompt is held. What is
outside, such as files, the environment and services, is given. -/

namespace Colloquy.Console

/-- The world of a session: an assistant and tools. Nobody cancels a turn. -/
def world {ω : Type} (service : ChatService (StateM ω)) (tools : Tooling) : World ((Assistant × ω) × tools.State) where
  cancelled _ := false
  complete snapshot schemas s :=
    let (result, a) := Assistant.ask service snapshot schemas s.1
    (some result, (a, s.2))
  invoke calls s :=
    let (outcomes, t) := tools.invoke calls s.2
    (some outcomes, (s.1, t))

/-! ### Making ready -/

/-- What is outside of a run. -/
structure Outside (ω : Type) where
  environment : Environment
  /-- The home directory of the account. -/
  account : Option String
  /-- The log file could be made, where one is asked for. It is made before anything else is looked at. -/
  logMade : Bool
  found : String → FileFound
  /-- The completion service, for those who have a key and for those who have none. -/
  service : Bool → ChatService (StateM ω)
  serviceState : ω
  /-- The tools of the program itself, under a limit in milliseconds. -/
  builtin : Nat → Tooling
  /-- Starts a tool server and connects to it, under a limit for each of its answers. -/
  start : ServerConfig → Nat → Except Failure Tooling

variable {ω : Type}

namespace Outside

/-- The configuration of a run, before it is validated. -/
def settings (outside : Outside ω) (o : Options) : Except Report Config :=
  let loaded := do
    let path ← o.config.elim (defaultConfigPath outside.environment outside.account) .ok
    Config.load (outside.found path)
  match loaded with
  | .ok c => .ok (o.applyTo c)
  | .error e => .error (.because e "Failed to load configuration")

/-- The tools of a run. -/
def tooling (outside : Outside ω) (c : Config) : Except Report Tooling :=
  let limit := c.orchestration.toolTimeoutSecs * 1000
  match c.mcp with
  | none => .ok (outside.builtin limit)
  | some server => match outside.start server limit with
    | .ok tools => .ok tools
    | .error e => .error (.because e s!"Failed to start tool server '{server.command}'")

end Outside

/-- A session about to begin: what was printed before it, its world, and its talk. -/
structure Opened (ω : Type) where
  printed : List Piece
  tools : Tooling
  service : ChatService (StateM ω)
  talk : Talk ((Assistant × ω) × tools.State)

/-- What the program prints of tools that a server has. -/
def connectedLine (o : Options) (tools : Tooling) : List Piece :=
  match o.verbose, tools.server with
  | true, some name => [.out s!"Connected to {name} ({tools.schemas.length} tools)\n"]
  | _, _ => []

/-- The warning that a provider may want a key. -/
def keyWarning (o : Options) (p : ProviderConfig) (hasKey : Bool) : List Piece :=
  if o.offline || hasKey then [] else [.err s!"Warning: no API key configured for {p.providerType}\n"]

def assistant (o : Options) (p : ProviderConfig) : Assistant :=
  if o.offline then .offline { whenExhausted := .echo } else .provider ⟨p, .numberedFrom 0x80000000⟩

/-- The configuration of a run; its limits are valid. -/
def Outside.validSettings (outside : Outside ω) (o : Options) : Except Report Config := do
  let c ← outside.settings o
  c.orchestration.validate.mapError Report.ofFailure
  return c

/-- Opens a session with tools that are ready. -/
def Outside.openWith (outside : Outside ω) (o : Options) (c : Config) (tools : Tooling) : Except Report (Opened ω) :=
  match Conversation.start c.orchestration tools.schemas .numbered with
  | .error e => .error (.ofFailure e)
  | .ok conversation =>
    let hasKey := (c.provider.key? outside.environment).isSome
    let a := assistant o c.provider
    .ok {
      printed := connectedLine o tools ++ keyWarning o c.provider hasKey ++ greeting a.model
      tools
      service := outside.service hasKey
      talk := ⟨conversation, ((a, outside.serviceState), tools.state)⟩ }

/-- Makes everything ready for a session. -/
def Outside.opened (outside : Outside ω) (o : Options) : Except Report (Opened ω) :=
  match outside.validSettings o with
  | .error report => .error report
  | .ok c => match outside.tooling c with
    | .error report => .error report
    | .ok tools => outside.openWith o c tools

/-! ### Runs -/

/-- What is left of a run. -/
structure Finished (ω : Type) where
  status : Nat
  printed : List Piece := []
  serviceState : ω

/-- Says which of its versions the program is. -/
def versionLine : Piece := .out "parley 0.1.0\n"

/-- How a run begins: it is over at once, or a session is opened. -/
inductive Beginning (ω : Type) where
  | ended (f : Finished ω)
  | session (s : Opened ω)

namespace Outside

/-- It is over at once. -/
def stopped (outside : Outside ω) (status : Nat) (printed : List Piece) : Beginning ω :=
  .ended { status, printed, serviceState := outside.serviceState }

/-- Begins with the options and the log file settled. -/
def beginWith (outside : Outside ω) (o : Options) : Beginning ω :=
  match outside.opened o with
  | .error report => outside.stopped 1 [.err report.text]
  | .ok s => .session s

/-- Begins a run on a command line. -/
def begins (outside : Outside ω) (args : List String) : Beginning ω :=
  match Invocation.ofArgs args with
  | .misuse => outside.stopped 2 []
  | .help => outside.stopped 0 []
  | .version => outside.stopped 0 [versionLine]
  | .run o => match o.logFile with
    | none => outside.beginWith o
    | some path =>
      if (LogPlace.ofPath? path).isNone then outside.stopped 1 [.err (Report.mk s!"Invalid log file path: {path}" []).text]
      else if outside.logMade then outside.beginWith o
      else outside.stopped 101 []

/-- A run of the program on a command line and the lines of its input. -/
def run (outside : Outside ω) (args : List String) (lines : List InputLine) : Finished ω :=
  match outside.begins args with
  | .ended f => f
  | .session s =>
    let (pieces, ending, t) := s.talk.run (world s.service s.tools) lines
    { status := ending.status, printed := s.printed ++ pieces ++ ending.pieces, serviceState := t.state.1.2 }

end Outside

end Colloquy.Console
