import Colloquy.Config.Provider
import Colloquy.Rehearsal.Bench
import Colloquy.Session.Stdio

/-! Peers that are described by a shell script. Of the shell there are lines to read and to say,
variables of the environment, both kinds of quotes, and the end of the output. -/

namespace Colloquy.Rehearsal

/-! ### Words -/

/-- Where reading stands within a script. -/
inductive Quoting where
  | plain
  | single
  | double
  /-- Inside the name of a variable, given backwards, which stands in double quotes or not. -/
  | variable (name : List Char) (quoted : Bool)

/-- A script as far as it is read, everything backwards. -/
structure Shell where
  commands : List (List String) := []
  words : List String := []
  /-- The word under way, if one is. -/
  word : Option (List Char) := none
  quoting : Quoting := .plain

namespace Shell

def add (s : Shell) (cs : List Char) : Shell := { s with word := some (cs.reverse ++ s.word.getD []) }

def endWord (s : Shell) : Shell :=
  match s.word with
  | some cs => { s with word := none, words := String.ofList cs.reverse :: s.words }
  | none => s

def endCommand (s : Shell) : Shell :=
  let s := s.endWord
  { s with words := [], commands := s.words.reverse :: s.commands }

/-- The value of a variable takes the place of its name. -/
def endVariable (env : Environment) (s : Shell) : Shell :=
  match s.quoting with
  | .variable name quoted =>
    { s.add ((env.lookup (String.ofList name.reverse)).getD "").toList with quoting := if quoted then .double else .plain }
  | _ => s

def isNameChar (c : Char) : Bool := c.isAlphanum || c == '_'

/-- Takes a character that is not part of a variable's name. -/
def take (s : Shell) (c : Char) : Shell :=
  match s.quoting with
  | .single => if c == '\'' then { s with quoting := .plain } else s.add [c]
  | .double =>
    if c == '"' then { s with quoting := .plain }
    else if c == '$' then { s with quoting := .variable [] true }
    else s.add [c]
  | _ =>
    if c == '\'' then { s.add [] with quoting := .single }
    else if c == '"' then { s.add [] with quoting := .double }
    else if c == '$' then { s with quoting := .variable [] false }
    else if c == ';' || c == '\n' then s.endCommand
    else if c == ' ' || c == '\t' then s.endWord
    else s.add [c]

def feed (env : Environment) (s : Shell) (c : Char) : Shell :=
  match s.quoting with
  | .variable name quoted =>
    if isNameChar c then { s with quoting := .variable (c :: name) quoted } else (s.endVariable env).take c
  | _ => s.take c

/-- The commands of a script, each as its words. -/
def commandsOf (env : Environment) (script : String) : List (List String) :=
  ((script.toList.foldl (feed env) {}).endVariable env).endCommand.commands.reverse

end Shell

/-! ### Behaviour -/

/-- What a script does next. -/
inductive ScriptStep where
  /-- Waits for a line. -/
  | read
  | say (line : String)
  | endOutput
  /-- Reads on for ever. -/
  | drain

def ScriptStep.ofWords? : List String → Option ScriptStep
  | "read" :: _ => some .read
  | "echo" :: words => some (.say (" ".intercalate words))
  | ["exec", ">&-"] => some .endOutput
  | "exit" :: _ => some .endOutput
  | "cat" :: _ => some .drain
  | _ => none

/-- How a line arrives at the reader of frames. -/
def lineArrivals (line : String) : List (Nat × Arrival) :=
  (Text.rawLines (Text.utf8Bytes (line ++ "\n"))).filterMap fun raw =>
    match ((Session.Stdio.Pipe.ofOutput raw).receive).1 with
    | .frame value => some (0, .frame value)
    | .fault f => some (0, .error (f.message?.getD ""))
    | .endOfStream => none

/-- What arrives before the next line is read, and the reactions to that line and those after it. -/
def scriptReactions : List ScriptStep → List (Nat × Arrival) × List Reaction
  | [] | .endOutput :: _ => ([(0, .endOfStream)], [])
  | .drain :: _ => ([], [])
  | .say line :: rest =>
    let (arrivals, later) := scriptReactions rest
    (lineArrivals line ++ arrivals, later)
  | .read :: rest =>
    let (arrivals, later) := scriptReactions rest
    ([], { arrivals } :: later)

/-- The peer that runs a script. -/
def Peer.ofScript (env : Environment) (script : String) : Peer :=
  let (stream, reactions) := scriptReactions ((Shell.commandsOf env script).filterMap ScriptStep.ofWords?)
  { script := reactions, hangsWhenEmpty := true, stream }

end Colloquy.Rehearsal
