import Std.Data.HashMap
import Colloquy.Conversation.Codec

/-! The history of a conversation. Appending never judges; what is sent to a model is a snapshot, a
part of the history in which calls and results are paired. `CallIndex` records in one pass where each
id was first issued and first answered; `History.snapshot` selects in a second pass. -/

namespace Colloquy

/-- The entries of a conversation, oldest first. -/
abbrev History := List Message

/-- Positions of calls and results by call id. -/
structure CallIndex where
  /-- The position of the first message that issues the id. -/
  issuers : Std.HashMap String Nat := {}
  /-- The position of the first result for an id issued before it. -/
  answers : Std.HashMap String Nat := {}

namespace CallIndex

/-- Takes note of the message at a position. -/
def note (x : CallIndex) (entry : Message × Nat) : CallIndex :=
  match entry.1 with
  | .assistant _ calls =>
    { x with issuers := calls.foldl (fun m c => m.insertIfNew c.id entry.2) x.issuers }
  | .toolResult r =>
    if x.issuers.contains r.callId then { x with answers := x.answers.insertIfNew r.callId entry.2 } else x
  | .user _ | .system _ => x

def ofHistory (h : History) : CallIndex := h.zipIdx.foldl note {}

/-- The ids, in call order, of those calls of a batch at position `i` that stand against sending it:
ids repeated in the batch, issued earlier, or never answered. `seen` holds the ids before. -/
def unmatched (x : CallIndex) (i : Nat) : List String → List ToolCall → List String
  | _, [] => []
  | seen, c :: cs =>
    let rest := unmatched x i (c.id :: seen) cs
    if seen.contains c.id || x.issuers[c.id]? != some i || !x.answers.contains c.id then c.id :: rest else rest

end CallIndex

/-- The part of a history that is sent to a model. -/
structure Snapshot where
  messages : List Message := []
  /-- The ids for which messages with calls were left out. -/
  missing : List String := []

/-- A selection under way: the snapshot so far and the positions of the calls it took in. -/
structure Selection where
  snapshot : Snapshot := {}
  taken : List Nat := []

namespace Selection

def keep (s : Selection) (m : Message) : Selection :=
  { s with snapshot := { s.snapshot with messages := s.snapshot.messages ++ [m] } }

/-- Takes or leaves the message at a position. -/
def visit (x : CallIndex) (s : Selection) (entry : Message × Nat) : Selection :=
  match entry.1 with
  | .assistant _ calls =>
    match x.unmatched entry.2 [] calls with
    | [] => { s.keep entry.1 with taken := entry.2 :: s.taken }
    | ids => { s with snapshot := { s.snapshot with missing := s.snapshot.missing ++ ids } }
  | .toolResult r =>
    let issuerTaken := match x.issuers[r.callId]? with
      | some i => s.taken.contains i
      | none => false
    if x.answers[r.callId]? == some entry.2 && issuerTaken then s.keep entry.1 else s
  | .user _ | .system _ => s.keep entry.1

end Selection

namespace History

/-- The structurally valid part of the history: a message with calls is taken only if each of its
calls is answered later, and a result only together with its call. -/
def snapshot (h : History) : Snapshot :=
  (h.zipIdx.foldl (Selection.visit (CallIndex.ofHistory h)) {}).snapshot

/-- Calls in issue order, each with the position of its message. -/
def issued (h : History) : List (ToolCall × Nat) :=
  h.zipIdx.flatMap (fun entry => entry.1.calls.map (fun c => (c, entry.2)))

/-- Of calls with one id only the first is kept. -/
def firstOfEachId : List String → List ToolCall → List ToolCall
  | _, [] => []
  | seen, c :: cs => if seen.contains c.id then firstOfEachId seen cs else c :: firstOfEachId (c.id :: seen) cs

/-- Calls issued and not yet answered, in issue order. -/
def unanswered (h : History) : List ToolCall :=
  let x := CallIndex.ofHistory h
  let isOpen (entry : ToolCall × Nat) : Bool :=
    x.issuers[entry.1.id]? == some entry.2 && !x.answers.contains entry.1.id
  firstOfEachId [] ((h.issued.filter isOpen).map (·.1))

/-- Some message has issued a call with the id. -/
def issues (h : History) (id : String) : Bool := h.any (fun m => m.calls.any (fun c => c.id == id))

/-- Error results for all unanswered calls. -/
def closings (h : History) (e : ToolError) : List Message := h.unanswered.map (fun c => .ofOutcome c (.error e))

/-- Answers every unanswered call with an error result. -/
def close (h : History) (e : ToolError) : History := h ++ h.closings e

/-- The raw entries as indented JSON. -/
def debugText (h : History) : String := (Json.arr (h.map Message.toJson)).pretty

end History

end Colloquy
