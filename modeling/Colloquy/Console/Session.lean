import Colloquy.Console.Command
import Colloquy.Console.Input
import Colloquy.Console.Report
import Colloquy.Conversation.Summary
import Colloquy.Turn.Basic

/-! A session at the prompt: each line is a command, or a turn of the conversation. The session ends
with its input, at the user's wish, or when the tools are lost, and it breaks off at a line that cannot
be taken. -/

namespace Colloquy.Console

/-- What is printed, and where. -/
inductive Piece where
  | out (text : String)
  | err (text : String)
deriving DecidableEq, Repr

def Piece.outText : Piece → String
  | .out t => t
  | .err _ => ""

def Piece.errText : Piece → String
  | .out _ => ""
  | .err t => t

/-- A conversation and the state of the world it is held with. -/
structure Talk (σ : Type) where
  conversation : Conversation
  state : σ

def prompt : Piece := .out "> "

/-- What is printed before the first prompt. -/
def greeting (model : String) : List Piece :=
  [.out s!"Parley ({model})\n", .out "Type a question, or: tools, history, debug, clear, quit\n"]

def toolLine (t : ToolSchema) : Piece := .out s!"  {t.name} - {t.description}\n"

def failureLine (e : Failure) : Piece := .err s!"Error: {e.message}\n"

/-- What is printed of a turn, and whether the session goes on. -/
def turnPieces : TurnResult → List Piece × Bool
  | .ok answer => ([.out s!"\nAssistant: {answer}\n\n"], true)
  | .error .cancelled => ([.out "Cancelled\n"], true)
  | .error (.protocol reason) => ([failureLine (.protocol reason), .err "Tool session lost, exiting\n"], false)
  | .error e => ([failureLine e], true)

/-- How a session ends. -/
inductive Ending where
  | done
  | failed (report : Report)
  | crashed

/-- The report on a line that is no text. -/
def unreadableReport : Report :=
  ⟨"stream did not contain valid UTF-8", ["stream did not contain valid UTF-8"]⟩

def Ending.status : Ending → Nat
  | .done => 0
  | .failed _ => 1
  | .crashed => 101

/-- What is printed at the end. -/
def Ending.pieces : Ending → List Piece
  | .failed report => [.err report.text]
  | .done | .crashed => []

namespace Talk

variable {σ : Type}

/-- Obeys a command: what is printed, whether the session goes on, and the talk afterwards. -/
def obey (w : World σ) (t : Talk σ) : Command → (List Piece × Bool) × Talk σ
  | .empty => (([], true), t)
  | .quit => (([], false), t)
  | .clear => (([.out "History cleared\n"], true), { t with conversation := t.conversation.clear })
  | .history =>
    let shown := if t.conversation.history.isEmpty then "No messages yet\n" else t.conversation.history.summary
    (([.out shown], true), t)
  | .debug => (([.out (t.conversation.history.debugText ++ "\n")], true), t)
  | .tools => ((.out "Available Tools:\n\n" :: t.conversation.schemas.map toolLine, true), t)
  | .prompt text =>
    let ((result, conversation), state) := (t.conversation.turn text).run w t.state
    (turnPieces result, ⟨conversation, state⟩)

/-- Obeys the lines of the input, one after another. -/
def run (w : World σ) (t : Talk σ) : List InputLine → List Piece × Ending × Talk σ
  | [] => ([prompt], .done, t)
  | .unreadable :: _ => ([prompt], .failed unreadableReport, t)
  | .torn :: _ => ([prompt], .crashed, t)
  | .text line :: rest =>
    let ((pieces, goesOn), t) := t.obey w (.ofLine line)
    if goesOn then
      let (more, ending, t) := t.run w rest
      (prompt :: pieces ++ more, ending, t)
    else (prompt :: pieces, .done, t)

end Talk

end Colloquy.Console
