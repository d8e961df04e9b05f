import Colloquy.Text.Blank
import Colloquy.Text.Case

/-! What a line typed at the prompt asks for. -/

namespace Colloquy.Console

inductive Command where
  | quit
  /-- Forget the conversation. -/
  | clear
  /-- Show the conversation in short. -/
  | history
  /-- Show the conversation in full. -/
  | debug
  /-- List the tools. -/
  | tools
  | empty
  /-- Anything else is put to the model. -/
  | prompt (text : String)
deriving DecidableEq, Repr

/-- The words that stand for commands, when the line holds nothing else. -/
def Command.words : List (String × Command) :=
  [("", .empty), ("quit", .quit), ("exit", .quit), ("bye", .quit), ("clear", .clear), ("history", .history),
    ("debug", .debug), ("tools", .tools)]

/-- The command in a line; white space around it and the case of a command's word do not matter. -/
def Command.ofLine (line : String) : Command :=
  let trimmed := Text.trimBlanks line
  (words.lookup (Text.lower trimmed)).getD (.prompt trimmed)

end Colloquy.Console
