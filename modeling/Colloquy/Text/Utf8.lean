/-! UTF-8 text in bytes, and what is wrong with bytes that are none. -/

namespace Colloquy.Text

abbrev Bytes := List UInt8

/-- Why bytes are no UTF-8 text. -/
inductive Utf8Fault where
  /-- A sequence of this many bytes is no character; it starts at the given position. -/
  | invalid (length start : Nat)
  /-- The bytes end inside a character that starts at the given position. -/
  | incomplete (start : Nat)
deriving DecidableEq, Repr

/-- What a character's first byte asks for: how many bytes follow, and the bounds of the second. -/
def leadShape? (b : UInt8) : Option (Nat × UInt8 × UInt8) :=
  if 0xC2 ≤ b && b ≤ 0xDF then some (1, 0x80, 0xBF)
  else if b == 0xE0 then some (2, 0xA0, 0xBF)
  else if b == 0xED then some (2, 0x80, 0x9F)
  else if 0xE1 ≤ b && b ≤ 0xEF then some (2, 0x80, 0xBF)
  else if b == 0xF0 then some (3, 0x90, 0xBF)
  else if 0xF1 ≤ b && b ≤ 0xF3 then some (3, 0x80, 0xBF)
  else if b == 0xF4 then some (3, 0x80, 0x8F)
  else none

/-- A character whose first byte is read: where it starts, how many of its bytes are read, how many
are to come, and the bounds of the next. -/
structure PendingChar where
  start : Nat
  seen : Nat
  left : Nat
  low : UInt8
  high : UInt8

/-- Goes over bytes from a position on. -/
def findUtf8Fault (pos : Nat) (pending : Option PendingChar) : Bytes → Option Utf8Fault
  | [] => pending.map (fun p => .incomplete p.start)
  | b :: bs => match pending with
    | some p =>
      if p.low ≤ b && b ≤ p.high then
        findUtf8Fault (pos + 1)
          (if p.left = 1 then none else some { p with seen := p.seen + 1, left := p.left - 1, low := 0x80, high := 0xBF }) bs
      else some (.invalid p.seen p.start)
    | none =>
      if b < 0x80 then findUtf8Fault (pos + 1) none bs
      else match leadShape? b with
        | some (left, low, high) => findUtf8Fault (pos + 1) (some ⟨pos, 1, left, low, high⟩) bs
        | none => some (.invalid 1 pos)

def utf8Fault? (bytes : Bytes) : Option Utf8Fault := findUtf8Fault 0 none bytes

def Utf8Fault.message : Utf8Fault → String
  | .invalid length start => s!"invalid utf-8 sequence of {length} bytes from index {start}"
  | .incomplete start => s!"incomplete utf-8 byte sequence from index {start}"

/-- The text that bytes encode. -/
def utf8Text (bytes : Bytes) : Except Utf8Fault String :=
  match String.fromUTF8? ⟨bytes.toArray⟩ with
  | some s => .ok s
  | none => .error ((utf8Fault? bytes).getD (.invalid 1 0))

def utf8Bytes (s : String) : Bytes := s.toUTF8.toList

end Colloquy.Text
