import Colloquy.Json.Printer
import Colloquy.Json.Reader
import Colloquy.Text.Blank
import Colloquy.Text.Lines

/-! Frames over the standard streams of a child process: one JSON value a line, in both directions. -/

namespace Colloquy.Session.Stdio

/-- Most bytes in a line from the child. -/
def frameLimit : Nat := 16 * 1024 * 1024

/-- Why a frame could not be moved. -/
inductive StreamFault where
  /-- The line is no JSON value, and could not become one if it went on. -/
  | malformed
  /-- The line stops inside a JSON value. -/
  | truncated
  | tooLong
  | notText
  /-- The child's input is closed. -/
  | inputClosed
deriving DecidableEq, Repr

/-- The kind of system error that the fault is reported as. -/
def StreamFault.kind : StreamFault → String
  | .malformed | .tooLong | .notText => "InvalidData"
  | .truncated => "UnexpectedEof"
  | .inputClosed => "BrokenPipe"

/-- The text of the fault; for a line that is no JSON value it is left to the reader. -/
def StreamFault.message? : StreamFault → Option String
  | .malformed | .truncated => none
  | .tooLong => some "Frame exceeds maximum length"
  | .notText => some "Unable to decode input as UTF8"
  | .inputClosed => some "Stdin not available"

/-- A child's streams: the lines it has still to say, and what was written to it. -/
structure Pipe where
  incoming : List Text.Bytes
  /-- A line could not be cut or decoded; the next wait reports the end of the stream, once. -/
  stumbled : Bool := false
  /-- Lines written, latest first. -/
  written : List String := []
  closed : Bool := false

def Pipe.ofOutput (output : Text.Bytes) : Pipe := { incoming := Text.rawLines output }

/-- What a wait for a frame ends with. -/
inductive Arrival where
  | frame (value : Json)
  | endOfStream
  | fault (f : StreamFault)

/-- The bytes of a line that count towards its limit. -/
def lineLength (line : Text.Bytes) : Nat :=
  line.length - if line.getLast? = some Text.newline then 1 else 0

/-- The first frame among lines; blank lines are passed over. A line that is too long or no text is
a stumble. -/
def firstFrame : List Text.Bytes → Arrival × Bool × List Text.Bytes
  | [] => (.endOfStream, false, [])
  | line :: rest =>
    if frameLimit < lineLength line then (.fault .tooLong, true, rest)
    else match Text.utf8Text (Text.lineContent line) with
      | .error _ => (.fault .notText, true, rest)
      | .ok text =>
        if Text.isAllBlank text then firstFrame rest
        else match Json.read text with
          | .ok value => (.frame value, false, rest)
          | .error .endOfText => (.fault .truncated, false, rest)
          | .error .malformed => (.fault .malformed, false, rest)

def Pipe.receive (p : Pipe) : Arrival × Pipe :=
  if p.stumbled then (.endOfStream, { p with stumbled := false })
  else
    let (arrival, stumbled, incoming) := firstFrame p.incoming
    (arrival, { p with incoming, stumbled })

/-- A frame as it is written. -/
def frameLine (frame : Json) : String := frame.compact ++ "\n"

def Pipe.send (p : Pipe) (frame : Json) : Except StreamFault Unit × Pipe :=
  if p.closed then (.error .inputClosed, p) else (.ok (), { p with written := frameLine frame :: p.written })

def Pipe.close (p : Pipe) : Pipe := { p with closed := true }

/-- All that was written to the child. -/
def Pipe.childInput (p : Pipe) : String := String.join p.written.reverse

end Colloquy.Session.Stdio
