import Colloquy.Conversation.History

/-! A listing of a history for people: one line an entry, calls below their message, payloads cut
after fifty characters. -/

namespace Colloquy

/-- Most characters of a payload that are shown. -/
def summaryWidth : Nat := 50

def Message.shortened (s : String) : String :=
  let cs := s.toList
  String.ofList (cs.take summaryWidth) ++ if summaryWidth < cs.length then "..." else ""

/-- The lines for the message at a position. -/
def Message.summaryLines (m : Message) (i : Nat) : List String :=
  match m with
  | .user t => [s!"[User {i}]: {t}"]
  | .system t => [s!"[System {i}]: {t}"]
  | .assistant t calls =>
    let shown := t.getD ""
    s!"[Assistant {i}]: {shown}" ::
      if calls.isEmpty then []
      else s!"  [Tool Calls]: {calls.length} calls" :: calls.map (fun c => s!"    - {c.toolName} (ID: {c.id})")
  | .toolResult r => [s!"[Tool {i}]: {r.toolName} -> {Message.shortened r.payload.payloadText}"]

def History.summary (h : History) : String :=
  String.join ((h.zipIdx.flatMap (fun entry => entry.1.summaryLines entry.2)).map (· ++ "\n"))

end Colloquy
