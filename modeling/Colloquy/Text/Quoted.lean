import Colloquy.Text.Escaped

/-! Text in quotes for messages: every character that a reader could not see stands as an escape. -/

namespace Colloquy.Text

/-- The hexadecimal digits of a number, lower case. -/
def hexText (n : Nat) : List Char := Nat.toDigits 16 n

/-- One character between quotes. -/
def quotedChar (c : Char) : List Char :=
  match c with
  | '"' => ['\\', '"']
  | '\\' => ['\\', '\\']
  | '\n' => ['\\', 'n']
  | '\r' => ['\\', 'r']
  | '\t' => ['\\', 't']
  | '\x00' => ['\\', '0']
  | c => if isEscaped c then '\\' :: 'u' :: '\x7b' :: hexText c.toNat ++ ['\x7d'] else [c]

/-- The text in double quotes. -/
def quoted (s : String) : String := String.ofList ('"' :: s.toList.flatMap quotedChar ++ ['"'])

end Colloquy.Text
