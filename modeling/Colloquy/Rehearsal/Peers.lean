import Colloquy.Rehearsal.Bench
import Colloquy.Session.Connect

/-! Clients, connections and toolboxes on the bench. -/

namespace Colloquy.Rehearsal

open Session

abbrev ClientBench := Bench Client AnswerResult
abbrev ToolboxBench := Bench Toolbox Reply

/-- A client that has not yet said anything. -/
def ClientBench.start (peer : Peer) (limit : Nat) : ClientBench :=
  { node := { limit }, step := Client.step, peer, limit }

def ClientBench.ask (b : ClientBench) (wish : Wish) : Nat × ClientBench :=
  b.submit (fun ticket c => c.step (.ask ticket wish))

def ToolboxBench.invoke (b : ToolboxBench) (name : String) (arguments : Json) : Nat × ToolboxBench :=
  b.submit (fun ticket t => t.step (.invoke ticket name arguments))

def ToolboxBench.shutdown (b : ToolboxBench) : Nat × ToolboxBench :=
  b.submit (fun ticket t => t.step (.shutdown ticket))

/-- Makes calls one after another without waiting for answers in between. -/
def ToolboxBench.invokeAll (b : ToolboxBench) : List (String × Json) → List Nat × ToolboxBench
  | [] => ([], b)
  | (name, arguments) :: rest =>
    let (ticket, b) := ToolboxBench.invoke b name arguments
    let (tickets, b) := ToolboxBench.invokeAll b rest
    (ticket :: tickets, b)

/-- How connecting to a peer ends: the notes it left, and a toolbox or a failure. -/
structure Connected where
  notes : List Note
  outcome : Except Failure ToolboxBench

/-- Connects to a peer. -/
def connect (peer : Peer) (limit : Nat) : Connected :=
  let (first, effects) := Connection.start limit
  let idle : Bench Connection Unit := { node := first, step := Connection.step, peer, limit, issued := 1 }
  let b := (idle.push (first, effects)).await [Connection.ticket] none
  let outcome := match b.node.stage, b.node.toolbox? with
    | _, some node => .ok { node, step := fun t e => t.step (.session e), peer := b.peer, limit, now := b.now, issued := 1 }
    | .failed e, none => .error e
    | _, none => .error .cancelled
  ⟨b.notes, outcome⟩

end Colloquy.Rehearsal
