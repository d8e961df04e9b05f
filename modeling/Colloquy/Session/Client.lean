import Colloquy.Rpc.Records
import Colloquy.Session.Error

/-! The client of a tool server as a machine of events and effects. Callers stand in line for the
session; the first in line holds it from the writing of its frame to the answer. What the client
decides is in `Client.step`; when frames arrive, writes end and limits expire is up to the events, so
that what holds of every list of events holds of every peer and every schedule. -/

namespace Colloquy.Session

open Rpc

/-- What a caller wants done. -/
inductive Wish where
  | handshake (name version : String)
  | listTools
  | callTool (name : String) (arguments : Json)
  | ping
  /-- Close the transport. -/
  | close

/-- What a caller gets in the end. -/
inductive Answer where
  | server (info : ServerInfo)
  | tools (found : List ServerTool)
  | call (result : CallResult)
  | done

abbrev AnswerResult := Except SessionError Answer

/-- How far a caller's business has come. -/
inductive Job where
  | handshake
  /-- Telling the server that the handshake is over. -/
  | ready (server : ServerInfo)
  /-- Going through the pages of tools, with the tools of the pages before. -/
  | listing (found : List ServerTool)
  | call
  | ping
  | close

/-- A caller in line, with the frame it is going to write. A request is answered by id; a
notification and the closing of the transport have none. -/
structure Caller where
  ticket : Nat
  job : Job
  request : Option RequestId
  method : String
  frame : Json

/-- What the first in line is doing. -/
inductive Activity where
  | idle
  /-- Writing its own frame. -/
  | writing
  /-- Writing the rejection of a request of the peer. -/
  | rejecting
  | reading
  | closing
deriving DecidableEq, Repr

structure Client where
  /-- What a request may take, in milliseconds. -/
  limit : Nat
  nextId : Nat := 1
  /-- A frame is being written, or was left half written. -/
  midFrame : Bool := false
  line : List Caller := []
  activity : Activity := .idle
  /-- What the server announced in the handshake. -/
  capabilities : Option Capabilities := none

/-- What happens to a client. -/
inductive Event where
  /-- A caller turns up. The ticket names it and is not in use. -/
  | ask (ticket : Nat) (wish : Wish)
  | written
  | writeFailed (reason : String)
  | received (frame : Json)
  | receiveFailed (reason : String)
  /-- The stream from the peer has ended. -/
  | ended
  | closed
  | closeFailed (reason : String)
  /-- A caller's request has used up its time. -/
  | expired (ticket : Nat)
  /-- Callers have gone away. -/
  | withdrawn (tickets : List Nat)

/-- What a client has done, in order. -/
inductive Effect (α : Type) where
  /-- The caller has got the session. -/
  | hold (ticket : Nat)
  /-- Start writing a frame. -/
  | send (frame : Json)
  /-- Wait for the next frame. -/
  | receive
  | close
  /-- The write or the wait under way is given up. -/
  | abandon
  /-- A request of the caller starts, under a new id, and its time with it. -/
  | arm (ticket : Nat) (request : Request)
  /-- The request of the caller with the id has got its result. -/
  | accept (ticket : Nat) (id : RequestId) (value : Json)
  | answer (ticket : Nat) (result : α)

namespace Client

abbrev Step := Client × List (Effect AnswerResult)

/-! ### Standing in line -/

/-- A caller with a request goes to the end of the line, under a new id. -/
def enqueue (c : Client) (ticket : Nat) (job : Job) (method : String) (params : Option Json) : Step :=
  let id := RequestId.number (Int64.ofNat c.nextId)
  let request : Request := { id, method, params }
  ({ c with nextId := c.nextId + 1, line := c.line ++ [⟨ticket, job, some id, method, request.toJson.sorted⟩] },
    [.arm ticket request])

/-- A caller with a notification goes to the end of the line. -/
def enqueueNotification (c : Client) (ticket : Nat) (job : Job) (method : String) : Client :=
  let note : Notification := { method }
  { c with line := c.line ++ [⟨ticket, job, none, method, note.toJson.sorted⟩] }

def enqueueClose (c : Client) (ticket : Nat) : Client :=
  { c with line := c.line ++ [⟨ticket, .close, none, "", .null⟩] }

/-- Starts writing a frame, unless one before it was left half written. -/
def startFrame (c : Client) (activity : Activity) (frame : Json) : Option Step :=
  if c.midFrame then none else some ({ c with activity, midFrame := true }, [.send frame])

/-- Gives the free session to the first of the callers who can use it. A stream left in the middle
of a frame is of use to nobody but who closes it. -/
def grant (c : Client) : List Caller → Step
  | [] => ({ c with line := [], activity := .idle }, [])
  | caller :: rest => match caller.job with
    | .close => ({ c with line := caller :: rest, activity := .closing }, [.hold caller.ticket, .close])
    | _ => match { c with line := caller :: rest }.startFrame .writing caller.frame with
      | some (c, effects) => (c, .hold caller.ticket :: effects)
      | none =>
        let (c, effects) := c.grant rest
        (c, .hold caller.ticket :: .answer caller.ticket (.error .interrupted) :: effects)

/-- Gives the session on if it is free. -/
def settle (c : Client) : Step := if c.activity = .idle then c.grant c.line else (c, [])

/-- Takes the first out of the line and gives the session to the next. -/
def leave (c : Client) (effects : List (Effect AnswerResult)) : Step :=
  let (c, more) := { c with line := c.line.tail, activity := .idle }.settle
  (c, effects ++ more)

/-- The business of the first in line is over. -/
def finish (c : Client) (caller : Caller) (result : AnswerResult) : Step := c.leave [.answer caller.ticket result]

/-! ### Business -/

def handshakeParams (name version : String) : Json :=
  .obj [("capabilities", .obj []), ("clientInfo", .obj [("name", name), ("version", version)]),
    ("protocolVersion", protocolVersion)]

/-- Takes up a caller's wish. -/
def takeUp (c : Client) (ticket : Nat) : Wish → Step
  | .handshake name version => c.enqueue ticket .handshake Method.handshake (some (handshakeParams name version))
  | .listTools => c.enqueue ticket (.listing []) Method.toolsList none
  | .callTool name arguments =>
    c.enqueue ticket .call Method.toolsCall (some (.obj [("arguments", arguments), ("name", name)]))
  | .ping => c.enqueue ticket .ping Method.ping none
  | .close => (c.enqueueClose ticket, [])

/-- A value that is to have a type, or the protocol error that it has not. -/
def decoded {α : Type} (read : Json → Decode.Result α) (value : Json) : Except SessionError α :=
  match read value with
  | .ok a => .ok a
  | .error fault => .error (.protocol fault.message)

/-- The result of a request has come for the first in line: it is done, or goes on with its next
request at the end of the line. -/
def proceed (c : Client) (caller : Caller) (value : Json) : Step :=
  match caller.job with
  | .handshake => match decoded Welcome.decode value with
    | .error e => c.finish caller (.error e)
    | .ok welcome =>
      let c := { c with capabilities := some welcome.capabilities }
      (c.enqueueNotification caller.ticket (.ready welcome.server) Method.ready).leave []
  | .listing found => match decoded ToolsPage.decode value with
    | .error e => c.finish caller (.error e)
    | .ok page =>
      let found := found ++ page.tools
      match page.following? with
      | none => c.finish caller (.ok (.tools found))
      | some cursor =>
        let (c, effects) := c.enqueue caller.ticket (.listing found) Method.toolsList (some (.obj [("cursor", cursor)]))
        c.leave effects
  | .call => match decoded CallResult.decode value with
    | .error e => c.finish caller (.error e)
    | .ok result => c.finish caller (.ok (.call result))
  | .ping => c.finish caller (.ok .done)
  | .ready server => c.finish caller (.ok (.server server))
  | .close => c.finish caller (.ok .done)

/-- The response to the request of the first in line, which has the id. -/
def respond (c : Client) (caller : Caller) (id : RequestId) (r : Response) : Step :=
  match r.error, r.result with
  | some e, _ => c.finish caller (.error (.server e.code e.message))
  | none, some value =>
    let (c, effects) := c.proceed caller value
    (c, .accept caller.ticket id value :: effects)
  | none, none => c.finish caller (.error (.protocol "Empty response"))

/-- A frame has come while the first in line waits. Its response ends the wait; a request of the
peer is rejected; everything else is passed over. -/
def read (c : Client) (caller : Caller) (frame : Json) : Step :=
  match classify frame with
  | .error fault => c.finish caller (.error (.protocol fault.message))
  | .ok (.response r) => match caller.request with
    | some id => if r.id = some id then c.respond caller id r else (c, [.receive])
    | none => (c, [.receive])
  | .ok (.notification _) => (c, [.receive])
  | .ok (.request r) =>
    let rejection := Response.failure (some r.id) RpcError.methodNotFound
    match c.startFrame .rejecting rejection.toJson.sorted with
    | some step => step
    | none => c.finish caller (.error .interrupted)

/-- The frame is written: a request is waited on, a notification is done. -/
def wrote (c : Client) (caller : Caller) : Step :=
  let c := { c with midFrame := false }
  match caller.job, caller.request with
  | .ready server, _ => c.finish caller (.ok (.server server))
  | _, _ => ({ c with activity := .reading }, [.receive])

/-! ### Going away -/

/-- A caller whose time is up leaves the line; the session is taken from it if it holds it. -/
def expire (c : Client) (ticket : Nat) : Step :=
  match c.line.find? (fun caller => caller.ticket == ticket && caller.request.isSome) with
  | none => (c, [])
  | some caller =>
    let failure : Effect AnswerResult := .answer ticket (.error (.timeout caller.method c.limit))
    match c.line with
    | first :: _ =>
      if first.ticket == ticket then c.leave [.abandon, failure]
      else ({ c with line := c.line.filter (·.ticket != ticket) }, [failure])
    | [] => (c, [])

/-- Callers leave the line without an answer. -/
def withdraw (c : Client) (tickets : List Nat) : Step :=
  let rest := c.line.filter (fun caller => !tickets.contains caller.ticket)
  match c.line with
  | first :: _ =>
    if tickets.contains first.ticket then
      let (c, effects) := { c with line := rest, activity := .idle }.settle
      (c, .abandon :: effects)
    else ({ c with line := rest }, [])
  | [] => (c, [])

/-! ### Steps -/

/-- One event. Events that do not fit what the first in line is doing change nothing. -/
def step (c : Client) (e : Event) : Step :=
  match e, c.activity, c.line with
  | .ask ticket wish, _, _ =>
    let (c, effects) := c.takeUp ticket wish
    let (c, more) := c.settle
    (c, effects ++ more)
  | .expired ticket, _, _ => c.expire ticket
  | .withdrawn tickets, _, _ => c.withdraw tickets
  | .written, .writing, caller :: _ => c.wrote caller
  | .written, .rejecting, _ :: _ => ({ c with midFrame := false, activity := .reading }, [.receive])
  | .writeFailed reason, .writing, caller :: _ => c.finish caller (.error (.transport reason))
  | .writeFailed reason, .rejecting, caller :: _ => c.finish caller (.error (.transport reason))
  | .received frame, .reading, caller :: _ => c.read caller frame
  | .receiveFailed reason, .reading, caller :: _ => c.finish caller (.error (.transport reason))
  | .ended, .reading, caller :: _ => c.finish caller (.error .connectionClosed)
  | .closed, .closing, caller :: _ => c.finish caller (.ok .done)
  | .closeFailed reason, .closing, caller :: _ => c.finish caller (.error (.transport reason))
  | _, _, _ => (c, [])

/-- Runs a list of events. -/
def run (c : Client) : List Event → Step
  | [] => (c, [])
  | e :: es =>
    let (c, effects) := c.step e
    let (c, more) := c.run es
    (c, effects ++ more)

end Client

end Colloquy.Session
