import Colloquy.Json.Basic
import Colloquy.Decimal.Layout

/-! Writing JSON, compact or indented by two spaces. Non-ASCII characters stand for themselves. -/

namespace Colloquy

/-- Doubles are positional for exponents from -5 to 15 and keep their point. -/
def Number.layout : Decimal.Layout := ⟨some (-5, 15), true, .toEven⟩

def Number.text : Number → List Char
  | .int n => Decimal.intText n
  | .float x => Number.layout.render x

namespace Json

def hexDigit (n : Nat) : Char := if n < 10 then Char.ofNat (48 + n) else Char.ofNat (87 + n)

/-- The letter behind a backslash that stands for a character, where there is a short form. -/
def shortEscape? : Char → Option Char
  | '"' => some '"'
  | '\\' => some '\\'
  | '\x08' => some 'b'
  | '\x0c' => some 'f'
  | '\n' => some 'n'
  | '\r' => some 'r'
  | '\t' => some 't'
  | _ => none

def escapeChar (c : Char) : List Char :=
  match shortEscape? c with
  | some letter => ['\\', letter]
  | none =>
    if c.toNat < 32 then ['\\', 'u', '0', '0', hexDigit (c.toNat / 16), hexDigit (c.toNat % 16)] else [c]

def quotedChars (s : List Char) : List Char := '"' :: s.flatMap escapeChar ++ ['"']

mutual

/-- The text of a value without blanks, in front of `rest`. -/
def compactChars : Json → List Char → List Char
  | .null, rest => 'n' :: 'u' :: 'l' :: 'l' :: rest
  | .bool true, rest => 't' :: 'r' :: 'u' :: 'e' :: rest
  | .bool false, rest => 'f' :: 'a' :: 'l' :: 's' :: 'e' :: rest
  | .num n, rest => n.text ++ rest
  | .str s, rest => quotedChars s.toList ++ rest
  | .arr [], rest => '[' :: ']' :: rest
  | .arr (v :: vs), rest => '[' :: compactChars v (itemChars vs (']' :: rest))
  | .obj [], rest => '{' :: '}' :: rest
  | .obj ((k, v) :: ms), rest => '{' :: quotedChars k.toList ++ ':' :: compactChars v (memberChars ms ('}' :: rest))

def itemChars : List Json → List Char → List Char
  | [], rest => rest
  | v :: vs, rest => ',' :: compactChars v (itemChars vs rest)

def memberChars : List (String × Json) → List Char → List Char
  | [], rest => rest
  | (k, v) :: ms, rest => ',' :: quotedChars k.toList ++ ':' :: compactChars v (memberChars ms rest)

end

def compact (j : Json) : String := String.ofList (compactChars j [])

def indent (depth : Nat) : List Char := '\n' :: List.replicate (2 * depth) ' '

mutual

/-- The text of a value with every item and member on a line of its own. -/
def prettyChars (depth : Nat) : Json → List Char → List Char
  | .arr (v :: vs), rest =>
    '[' :: indent (depth + 1) ++ prettyChars (depth + 1) v (prettyItems depth vs (indent depth ++ ']' :: rest))
  | .obj ((k, v) :: ms), rest =>
    '{' :: indent (depth + 1) ++ quotedChars k.toList ++ ':' :: ' ' ::
      prettyChars (depth + 1) v (prettyMembers depth ms (indent depth ++ '}' :: rest))
  | j, rest => compactChars j rest

def prettyItems (depth : Nat) : List Json → List Char → List Char
  | [], rest => rest
  | v :: vs, rest => ',' :: indent (depth + 1) ++ prettyChars (depth + 1) v (prettyItems depth vs rest)

def prettyMembers (depth : Nat) : List (String × Json) → List Char → List Char
  | [], rest => rest
  | (k, v) :: ms, rest =>
    ',' :: indent (depth + 1) ++ quotedChars k.toList ++ ':' :: ' ' ::
      prettyChars (depth + 1) v (prettyMembers depth ms rest)

end

def pretty (j : Json) : String := String.ofList (prettyChars 0 j [])

/-- A value as the text shown to a model: strings stand for themselves. -/
def payloadText : Json → String
  | .str s => s
  | j => j.compact

end Json

end Colloquy
