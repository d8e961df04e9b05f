import Colloquy.Tool.Local
import Colloquy.Server.Basic

/-! Tools and handlers with prepared replies, for rehearsing conversations without the outside world. -/

namespace Colloquy.Rehearsal

/-- What the outside world saw. -/
inductive Note where
  | called (tool : String) (arguments : Json)
  | sent (frame : Json)
  | closed

def Note.toJson : Note → Json
  | .called tool arguments => .obj [("tool", tool), ("arguments", arguments)]
  | .sent frame => .obj [("sent", frame)]
  | .closed => .obj [("closed", true)]

/-- What a canned reply gives. -/
inductive CannedReply where
  | give (outcome : ToolOutcome)
  /-- The arguments come back. -/
  | echo

structure TimedReply where
  delay : Nat := 0
  reply : CannedReply := .echo

def TimedReply.outcome (r : TimedReply) (arguments : Json) : Timed :=
  match r.reply with
  | .give outcome => ⟨r.delay, outcome⟩
  | .echo => ⟨r.delay, .ok arguments⟩

/-- Notes of the calls made, oldest first, and how often each tool was called. -/
structure CannedState where
  notes : List Note := []
  uses : List (String × Nat) := []

abbrev CannedM := StateM CannedState

def countUse (name : String) : List (String × Nat) → List (String × Nat)
  | [] => [(name, 1)]
  | (n, k) :: rest => if n = name then (n, k + 1) :: rest else (n, k) :: countUse name rest

/-- The reply to the call with the given number; the last one repeats. -/
def replyAt (replies : List TimedReply) (i : Nat) : TimedReply := (replies[min i (replies.length - 1)]?).getD {}

/-- A tool that gives prepared replies in turn. -/
def cannedTool (schema : ToolSchema) (replies : List TimedReply) : Tool (Json → CannedM Timed) where
  schema
  action arguments := modifyGet fun s =>
    let used := (s.uses.lookup schema.name).getD 0
    ((replyAt replies used).outcome arguments,
      { notes := s.notes ++ [.called schema.name arguments], uses := countUse schema.name s.uses })

/-- What a canned handler gives for a call. -/
inductive HandlerReply where
  | give (result : Except String Json)
  | echo

/-- A handler with prepared answers by name. -/
def cannedHandler (tools : List Rpc.ServerTool) (replies : List (String × HandlerReply)) : Server.Handler Id where
  tools := tools
  call name arguments := match replies.lookup name with
    | some (.give result) => result
    | some .echo => .ok arguments
    | none => .error s!"Unknown tool: {name}"

/-- The frames with which a server answers a frame. -/
def served (handler : Server.Handler Id) (who : Server.Identity) (frame : Json) : List Json :=
  (Id.run (Server.answerFrame handler who frame)).toList.map (·.toJson.sorted)

end Colloquy.Rehearsal
