import Colloquy.Proofs.Server.Answers
import Colloquy.Proofs.Session.Connecting
import Colloquy.Proofs.Session.Service

/-! Exchanges of a client that nobody disturbs. A call that is alone in its session is sent, written and answered,
and then the session is free as before (`Toolbox.serving_written`, `Toolbox.serving_received`). A connection to a
server with one page of tools takes two requests and a notification (`Connection.complete`). -/

namespace Colloquy.Session

open Rpc

/-- The result of its request comes for the first in line. -/
theorem Client.step_results {c : Client} {caller : Caller} {rest : List Caller} {id : RequestId} {frame value : Json}
    (hreading : c.activity = .reading) (hline : c.line = caller :: rest) (hrequest : caller.request = some id)
    (hframe : Server.Results frame id value) :
    c.step (.received frame) =
      ((c.proceed caller value).1, .accept caller.ticket id value :: (c.proceed caller value).2) := by
  have hstep : c.step (.received frame) = c.read caller frame := by
    simp only [step, hreading, hline]
  rw [hstep, read, hframe]
  simp only [hrequest, Response.success, if_true]
  rfl

namespace Toolbox

variable {b : Toolbox}

/-- The toolbox after one request more. -/
def advanced (b : Toolbox) : Toolbox := { b with client := { b.client with nextId := b.client.nextId + 1 } }

theorem Fresh.advanced (h : b.Fresh) : b.advanced.Fresh := ⟨h.line, h.activity, h.midFrame, h.closed, h.broken⟩

theorem serving_written (b : Toolbox) (t : Nat) (name : String) (arguments : Json) :
    (b.serving t name arguments .writing true).step (.session .written) =
      (b.serving t name arguments .reading false, [.receive]) := rfl

/-- A result breaks nothing. -/
theorem breaks_result (result : CallResult) : breaks (outcomeOf (.ok (.call result))) = false := by
  simp only [outcomeOf]
  split <;> rfl

/-- The call is answered with what its result holds, and the toolbox is free again. -/
theorem serving_received {frame value : Json} {result : CallResult} (h : b.Fresh) (hcalling : b.calling = [])
    (t : Nat) (name : String) (arguments : Json)
    (hframe : Server.Results frame (b.nextRequest name arguments).id value)
    (hvalue : CallResult.decode value = .ok result) :
    (b.serving t name arguments .reading false).step (.session (.received frame)) = (b.advanced,
      [.accept t (b.nextRequest name arguments).id value, .answer t (.outcome (outcomeOf (.ok (.call result))))]) := by
  have hproceed : (b.serving t name arguments .reading false).client.proceed (b.callerOf t name arguments) value =
      (b.advanced.client, [.answer t (.ok (.call result))]) := by
    have hdecoded : Client.decoded CallResult.decode value = .ok result := Client.decoded_eq_ok.mpr hvalue
    simp only [Client.proceed, callerOf, hdecoded, Client.finish]
    rw [Client.leave_eq (by simp [serving])]
    simp [serving, Toolbox.advanced, h.line, h.activity, h.midFrame]
  have hclient := Client.step_results (c := (b.serving t name arguments .reading false).client) rfl rfl rfl hframe
  rw [hproceed] at hclient
  show (b.serving t name arguments .reading false).session (.received frame) = _
  unfold session
  rw [hclient]
  simp [relayAll, relay, serving, callerOf, hcalling, breaks_result, h.broken, Toolbox.advanced]

end Toolbox

namespace Connection

/-! ### The introduction of a server -/

def listingRequest : Request := { id := .number 2, method := Method.toolsList }

/-- The connection with its caller at the handshake. -/
def greeting (limit : Nat) (activity : Activity) (midFrame : Bool) : Connection where
  client :=
    { limit, nextId := 2, midFrame, activity
      line := [⟨ticket, .handshake, some (.number 1), Method.handshake, handshakeRequest.toJson.sorted⟩] }

def readying (limit : Nat) (welcome : Welcome) : Connection where
  client :=
    { limit, nextId := 2, midFrame := true, activity := .writing, capabilities := some welcome.capabilities
      line := [⟨ticket, .ready welcome.server, none, Method.ready, readyNote.toJson.sorted⟩] }

def listing (limit : Nat) (welcome : Welcome) (activity : Activity) (midFrame : Bool) : Connection where
  client :=
    { limit, nextId := 3, midFrame, activity, capabilities := some welcome.capabilities
      line := [⟨ticket, .listing [], some (.number 2), Method.toolsList, listingRequest.toJson.sorted⟩] }
  stage := .listing welcome.server

def complete (limit : Nat) (welcome : Welcome) (tools : List ServerTool) : Connection where
  client := { limit, nextId := 3, capabilities := some welcome.capabilities }
  stage := .connected welcome.server (tools.map ServerTool.toSchema)

variable (limit : Nat) (welcome : Welcome)

theorem start_eq : start limit = (greeting limit .writing true,
    [.arm ticket handshakeRequest, .hold ticket, .send handshakeRequest.toJson.sorted]) := rfl

theorem greeting_written :
    (greeting limit .writing true).step .written = (greeting limit .reading false, [.receive]) := rfl

theorem greeting_received {frame value : Json}
    (hframe : Server.Results frame (.number 1) value) (hvalue : Welcome.decode value = .ok welcome) :
    (greeting limit .reading false).step (.received frame) =
      (readying limit welcome, [.accept ticket (.number 1) value, .hold ticket, .send readyNote.toJson.sorted]) := by
  have hdecoded : Client.decoded Welcome.decode value = .ok welcome := Client.decoded_eq_ok.mpr hvalue
  have hclient := Client.step_results (c := (greeting limit .reading false).client) rfl rfl rfl hframe
  simp only [greeting, Client.proceed, hdecoded] at hclient
  unfold step
  simp only [greeting, hclient]
  rfl

theorem readying_written : (readying limit welcome).step .written = (listing limit welcome .writing true,
    [.arm ticket listingRequest, .hold ticket, .send listingRequest.toJson.sorted]) := rfl

theorem listing_written :
    (listing limit welcome .writing true).step .written = (listing limit welcome .reading false, [.receive]) := rfl

theorem listing_received {frame value : Json} {tools : List ServerTool}
    (hframe : Server.Results frame (.number 2) value) (hvalue : ToolsPage.decode value = .ok ⟨tools, none⟩) :
    (listing limit welcome .reading false).step (.received frame) =
      (complete limit welcome tools, [.accept ticket (.number 2) value, .answer ticket ()]) := by
  have hdecoded : Client.decoded ToolsPage.decode value = .ok ⟨tools, none⟩ := Client.decoded_eq_ok.mpr hvalue
  have hclient := Client.step_results (c := (listing limit welcome .reading false).client) rfl rfl rfl hframe
  simp only [listing, Client.proceed, hdecoded] at hclient
  unfold step
  simp only [listing, hclient]
  rfl

end Connection

end Colloquy.Session
