import Colloquy.Server.Basic
import Colloquy.Text.Lines

/-! Serving a stream of lines: every line is answered by one line at most, in order, until the stream
ends or a line is no text. The stream may be there as a whole, or come in pieces. -/

namespace Colloquy.Server

universe u

variable {m : Type → Type u} [Monad m]

/-- What serving has written, line by line, and the line that ended it early, if one did. -/
structure Served where
  lines : List String
  fault : Option Text.Utf8Fault

def serveLines (h : Handler m) (who : Identity) : List Text.Bytes → m Served
  | [] => pure ⟨[], none⟩
  | line :: rest => match Text.utf8Text line with
    | .error fault => pure ⟨[], some fault⟩
    | .ok text => do
      let response ← answerLine h who text
      let served ← serveLines h who rest
      return { served with lines := (response.map responseLine).toList ++ served.lines }

/-- Serves all bytes of a stream. -/
def serve (h : Handler m) (who : Identity) (input : Text.Bytes) : m Served := serveLines h who (Text.rawLines input)

/-- Serves a stream that comes in pieces. `current` holds the bytes of the line so far, latest first; the lines that
end in a piece are answered before the next piece is taken. -/
def servePieces (h : Handler m) (who : Identity) (current : Text.Bytes) : List Text.Bytes → m Served
  | [] => serveLines h who (Text.lastLine current)
  | piece :: pieces => do
    let (lines, current) := Text.cutPiece current [] piece
    let served ← serveLines h who lines
    if served.fault.isSome then return served
    let rest ← servePieces h who current pieces
    return { rest with lines := served.lines ++ rest.lines }

def Served.output (s : Served) : String := String.join s.lines

end Colloquy.Server
