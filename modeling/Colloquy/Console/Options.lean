import Colloquy.Config.Basic

/-! The command line: options with a value, switches, and after `--` the arguments of the tool server.
Words are read from left to right, and the first one that settles the matter does: a request for help,
a request for the version, or a word that cannot stand where it stands. -/

namespace Colloquy.Console

structure Options where
  config : Option String := none
  provider : Option String := none
  model : Option String := none
  /-- The command of the tool server. -/
  server : Option String := none
  serverArgs : List String := []
  maxRounds : Option Nat := none
  parallelTools : Bool := false
  /-- Echo instead of asking a provider. -/
  offline : Bool := false
  verbose : Bool := false
  logFile : Option String := none
deriving DecidableEq, Repr

/-- What a command line asks for. -/
inductive Invocation where
  | run (o : Options)
  | help
  | version
  | misuse
deriving DecidableEq, Repr

/-- Options that take a value. -/
inductive Setting where
  | config
  | provider
  | model
  | server
  | maxRounds
  | logFile
deriving DecidableEq, Repr

inductive Switch where
  | parallelTools
  | offline
  | verbose
  | help
  | version
deriving DecidableEq, Repr

inductive Flag where
  | setting (s : Setting)
  | switch (s : Switch)
deriving DecidableEq, Repr

def longFlags : List (String × Flag) :=
  [("config", .setting .config), ("provider", .setting .provider), ("model", .setting .model), ("server", .setting .server),
    ("max-rounds", .setting .maxRounds), ("log-file", .setting .logFile), ("parallel-tools", .switch .parallelTools),
    ("offline", .switch .offline), ("verbose", .switch .verbose), ("help", .switch .help), ("version", .switch .version)]

def shortFlags : List (Char × Flag) :=
  [('c', .setting .config), ('p', .setting .provider), ('m', .setting .model), ('v', .switch .verbose), ('h', .switch .help),
    ('V', .switch .version)]

/-- A count: digits after a plus sign or none, of 64 bits at most. -/
def count? (s : String) : Option Nat :=
  let digits := match s.toList with
    | '+' :: ds => ds
    | ds => ds
  if digits.isEmpty || !digits.all Char.isDigit then none
  else
    let n := digits.foldl (fun n d => 10 * n + (d.toNat - 48)) 0
    if n < Nat.pow 2 64 then some n else none

/-- Fills a place that is still empty. -/
def fill {α : Type} (place : Option α) (value : Option α) (put : α → Options) : Option Options :=
  match place, value with
  | none, some v => some (put v)
  | _, _ => none

namespace Options

/-- Gives an option its value. It has to be of the right kind, and the first one; a path is not empty. -/
def give (o : Options) (value : String) : Setting → Option Options
  | .config => fill o.config (Text.nonEmpty? value) fun v => { o with config := some v }
  | .provider => fill o.provider (some value) fun v => { o with provider := some v }
  | .model => fill o.model (some value) fun v => { o with model := some v }
  | .server => fill o.server (some value) fun v => { o with server := some v }
  | .maxRounds => fill o.maxRounds (count? value) fun v => { o with maxRounds := some v }
  | .logFile => fill o.logFile (Text.nonEmpty? value) fun v => { o with logFile := some v }

end Options

/-- Where reading stands after a word: an option may be waiting for its value. -/
inductive Progress where
  | going (o : Options) (waiting : Option Setting)
  | settled (i : Invocation)

def Progress.given (o : Options) (value : String) (s : Setting) : Progress :=
  match o.give value s with
  | some o => .going o none
  | none => .settled .misuse

/-- Turns a switch on; it cannot be turned on twice. -/
def Progress.switched (o : Options) : Switch → Progress
  | .parallelTools => if o.parallelTools then .settled .misuse else .going { o with parallelTools := true } none
  | .offline => if o.offline then .settled .misuse else .going { o with offline := true } none
  | .verbose => if o.verbose then .settled .misuse else .going { o with verbose := true } none
  | .help => .settled .help
  | .version => .settled .version

/-- A word that starts with two dashes: a name, and with an equals sign a value. -/
def readLong (o : Options) (word : List Char) : Progress :=
  let name := String.ofList (word.takeWhile (· != '='))
  match longFlags.lookup name, word.dropWhile (· != '=') with
  | some (.setting s), [] => .going o (some s)
  | some (.setting s), _ :: value => Progress.given o (String.ofList value) s
  | some (.switch s), [] => Progress.switched o s
  | _, _ => .settled .misuse

/-- The letters after one dash. The rest of the word after a letter that takes a value is the value. -/
def readShort (o : Options) : List Char → Progress
  | [] => .going o none
  | letter :: rest => match shortFlags.lookup letter, rest with
    | some (.setting s), [] => .going o (some s)
    | some (.setting s), '=' :: value => Progress.given o (String.ofList value) s
    | some (.setting s), value => Progress.given o (String.ofList value) s
    | some (.switch s), rest => match Progress.switched o s with
      | .going o _ => readShort o rest
      | settled => settled
    | none, _ => .settled .misuse

/-- Reads the words that are left. A word that starts with a dash is no value. -/
def readWords (o : Options) : Option Setting → List String → Invocation
  | none, [] => .run o
  | some _, [] => .misuse
  | some s, word :: rest => match word.toList with
    | '-' :: _ :: _ => .misuse
    | _ => match o.give word s with
      | some o => readWords o none rest
      | none => .misuse
  | none, word :: rest =>
    let progress := match word.toList with
      | '-' :: '-' :: name => readLong o name
      | '-' :: letter :: letters => readShort o (letter :: letters)
      | _ => .settled .misuse
    if word = "--" then .run { o with serverArgs := rest }
    else match progress with
      | .going o waiting => readWords o waiting rest
      | .settled i => i

/-- What a command line asks for. -/
def Invocation.ofArgs (args : List String) : Invocation := readWords {} none args

/-- What can be said on the command line. -/
def usage : String :=
  "Usage: parley [-c PATH] [-p PROVIDER] [-m MODEL] [--server CMD] [--max-rounds N] [--parallel-tools] " ++
    "[--offline] [-v] [--log-file PATH] [-- ARGS]\n"

/-- The configuration as the command line changes it. -/
def Options.applyTo (o : Options) (c : Config) : Config :=
  let provider := match o.provider with
    | some p => c.provider.switchTo p
    | none => c.provider
  { provider := { provider with model := o.model.getD provider.model }
    orchestration := { c.orchestration with
      maxRounds := o.maxRounds.getD c.orchestration.maxRounds
      parallelTools := o.parallelTools || c.orchestration.parallelTools }
    mcp := (o.server.map (fun command => ⟨command, o.serverArgs, []⟩)).or c.mcp }

end Colloquy.Console
