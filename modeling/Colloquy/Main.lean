import Colloquy.Console.Isolated

/-! The programs at work: the console on the standard streams, and the weather server. Neither reaches a
network or starts other programs, so a provider cannot be asked and a tool server cannot be started;
the console is at its best with the echo of its offline mode. -/

namespace Colloquy

open Console

/-- What is found at a path. -/
def findFile (path : String) : IO FileFound := do
  try
    let content ← IO.FS.readBinFile path
    return .bytes content.toList
  catch
    | .noFileOrDirectory .. => return .nothing
    | _ => return .directory

/-- Those of the named variables that are set. -/
def setAmong (names : List String) : IO Environment :=
  names.filterMapM fun name => do return (← IO.getEnv name).map (name, ·)

/-- The variables that are read whatever the configuration says. -/
def usualVariables : List String :=
  ["HOME", "XDG_CONFIG_HOME", "OPENAI_API_KEY", "ANTHROPIC_API_KEY", "GEMINI_API_KEY", "GROQ_API_KEY", "DEEPSEEK_API_KEY",
    "XAI_API_KEY"]

/-- What a run with some options refers to: the environment, with the variable that holds the key, and
the configuration file. -/
def referredTo (o : Options) : IO (Environment × List (String × FileFound)) := do
  let environment ← setAmong usualVariables
  let config := o.config.or (defaultConfigPath environment none).toOption
  let files ← config.toList.mapM fun path => do return (path, ← findFile path)
  match (outsideWith true environment files).settings o with
  | .ok c => return (environment ++ (← setAmong c.provider.apiKeyEnv.toList), files)
  | .error _ => return (environment, files)

def printPiece : Piece → IO Unit
  | .out text => do
    IO.print text
    (← IO.getStdout).flush
  | .err text => IO.eprint text

/-- The rest of a line in bytes; those so far are latest first. -/
partial def readLine (input : IO.FS.Stream) (soFar : List UInt8) : IO Text.Bytes := do
  let next ← input.read 1
  match next.toList with
  | [] => return soFar.reverse
  | b :: _ => if b = Text.newline then return (b :: soFar).reverse else readLine input (b :: soFar)

/-- Holds a talk until its end or the end of the input. -/
partial def hold {σ : Type} (w : World σ) (t : Talk σ) (input : IO.FS.Stream) : IO Ending := do
  printPiece prompt
  let line ← readLine input []
  if line.isEmpty then return .done
  match InputLine.ofBytes line with
  | .unreadable => return .failed unreadableReport
  | .torn => return .crashed
  | .text s => do
    let ((pieces, goesOn), t) := t.obey w (.ofLine s)
    pieces.forM printPiece
    if goesOn then hold w t input else return .done

/-- Answers the lines of a stream as the weather server. -/
partial def answerLines (input output : IO.FS.Stream) : IO Unit := do
  let line ← input.getLine
  if !line.isEmpty then
    match Id.run (Server.answerLine (Server.weatherHandler Http.unreachable) Server.weatherIdentity line) with
    | some response => do
      output.putStr (Server.responseLine response)
      output.flush
    | none => pure ()
    answerLines input output

def weatherServer : IO Unit := do answerLines (← IO.getStdin) (← IO.getStdout)

/-- Makes a file if it is not there. -/
def touch (path : String) : IO Bool := do
  try
    let _ ← IO.FS.Handle.mk path .append
    return true
  catch _ => return false

/-- Makes the log file, if need be after its directory has been made. -/
def makeLogFile (p : LogPlace) : IO Bool := do
  if ← touch (pathBelow p.directory p.name) then return true
  try
    IO.FS.createDirAll p.directory
    touch (pathBelow p.directory p.name)
  catch _ => return false

def console (args : List String) : IO UInt32 := do
  let logMade ← match LogPlace.ofArgs? args with
    | some place => makeLogFile place
    | none => pure true
  let (environment, files) ← match Invocation.ofArgs args with
    | .run o => referredTo o
    | .help => do
      IO.print usage
      pure ([], [])
    | .misuse => do
      IO.eprint usage
      pure ([], [])
    | .version => pure ([], [])
  match (outsideWith logMade environment files).begins args with
  | .ended f => do
    f.printed.forM printPiece
    return f.status.toUInt32
  | .session s => do
    s.printed.forM printPiece
    let ending ← hold (world s.service s.tools) s.talk (← IO.getStdin)
    ending.pieces.forM printPiece
    return ending.status.toUInt32

end Colloquy

def main (args : List String) : IO UInt32 := Colloquy.console args
