import Colloquy.Text.Cluster
import Colloquy.Text.Lines

/-! Lines of input as the prompt takes them. A backspace erases the cluster in front of it. The sizes of
clusters are kept in one byte each, so a cluster of 256 bytes or more is not erased as a whole, and
erasing may end inside a character. -/

namespace Colloquy.Console

/-- What a line of input comes to. -/
inductive InputLine where
  | text (s : String)
  /-- The line is no text. -/
  | unreadable
  /-- Erasing ended inside a character. -/
  | torn
deriving DecidableEq, Repr

def backspace : List Char := ['\x08']

/-- The text without so many bytes at its end; characters are latest first. -/
def withoutBytes : Nat → List Char → Option (List Char)
  | 0, kept => some kept
  | _, [] => none
  | n, c :: kept => if c.utf8Size ≤ n then withoutBytes (n - c.utf8Size) kept else none

/-- What is kept of a line so far: its characters, and the sizes of its clusters, latest first. -/
structure Kept where
  chars : List Char := []
  sizes : List Nat := []

def Kept.add (k : Kept) (cluster : List Char) : Kept :=
  ⟨cluster.reverse ++ k.chars, cluster.foldl (fun n c => n + c.utf8Size) 0 % 256 :: k.sizes⟩

/-- Erases the last cluster, if there is one. -/
def Kept.erase (k : Kept) : Option Kept :=
  match k.sizes with
  | [] => some k
  | size :: sizes => (withoutBytes size k.chars).map (⟨·, sizes⟩)

def Kept.take (k : Kept) (cluster : List Char) : Option Kept :=
  if cluster = backspace then k.erase else some (k.add cluster)

/-- A line after its backspaces have done their work. -/
def erased (line : List Char) : InputLine :=
  if line.contains '\x08' then
    match (Text.clusters line).foldlM Kept.take {} with
    | some k => .text (String.ofList k.chars.reverse)
    | none => .torn
  else .text (String.ofList line)

/-- A line without its end: a newline, and a carriage return in front of one. -/
def withoutEnd (line : List Char) : List Char :=
  match line.reverse with
  | '\n' :: '\r' :: rest => rest.reverse
  | '\n' :: rest => rest.reverse
  | _ => line

/-- The line in bytes up to a newline, and with it. -/
def InputLine.ofBytes (raw : Text.Bytes) : InputLine :=
  match Text.utf8Text raw with
  | .ok s => erased (withoutEnd s.toList)
  | .error _ => .unreadable

/-- The lines of the input. -/
def inputLines (input : Text.Bytes) : List InputLine := (Text.rawLines input).map InputLine.ofBytes

end Colloquy.Console
