import Colloquy.Text.Utf8

/-! Lines in a stream of bytes, which may come in pieces. A line ends with a newline; what follows the last
one is a line too unless it is empty. -/

namespace Colloquy.Text

def newline : UInt8 := 10

/-- Cuts bytes behind every newline. `current` holds the bytes of the line so far and `done` the
lines before it, both latest first. -/
def cutLines (current : Bytes) (done : List Bytes) : Bytes → List Bytes
  | [] => (if current.isEmpty then done else current.reverse :: done).reverse
  | b :: bs => if b == newline then cutLines [] ((b :: current).reverse :: done) bs else cutLines (b :: current) done bs

/-- The lines of a stream, each with its newline. -/
def rawLines (bytes : Bytes) : List Bytes := cutLines [] [] bytes

/-! ### Streams in pieces -/

/-- Cuts a piece of a stream. `current` holds the bytes of the line so far and `done` the lines before it, both
latest first; what follows the last newline is kept for the next piece. -/
def cutPiece (current : Bytes) (done : List Bytes) : Bytes → List Bytes × Bytes
  | [] => (done.reverse, current)
  | b :: bs => if b == newline then cutPiece [] ((b :: current).reverse :: done) bs else cutPiece (b :: current) done bs

/-- The line that a stream ends with, if it does not end with a newline. -/
def lastLine (current : Bytes) : List Bytes := if current.isEmpty then [] else [current.reverse]

/-- The lines of a stream that comes in pieces. -/
def linesOf (current : Bytes) : List Bytes → List Bytes
  | [] => lastLine current
  | piece :: pieces =>
    let (lines, current) := cutPiece current [] piece
    lines ++ linesOf current pieces

/-! ### What a line holds -/

/-- A line without its newline and a carriage return in front of it. -/
def lineContent (line : Bytes) : Bytes :=
  match line.reverse with
  | 10 :: 13 :: rest => rest.reverse
  | 10 :: rest => rest.reverse
  | 13 :: rest => rest.reverse
  | _ => line

end Colloquy.Text
