import Colloquy.Proofs.Session.Log

/-! A request amid other traffic. Whoever holds the session waits for the response to its own id, and whatever else
the peer delivers until then is passed over; a request of the peer is rejected on the way. Others may turn up, run
out of time or go away meanwhile: it makes no difference (`Leads`). The wait ends with the response, with a frame
that cannot be read or with the stream, and nothing further is read for the request (`request_amid_traffic`). -/

namespace Colloquy.Session

open Rpc

/-- Whether an event has to do with who holds the session under the ticket. -/
def Event.concerns (t : Nat) : Event → Bool
  | .ask _ _ => false
  | .expired t' => t' == t
  | .withdrawn tickets => tickets.contains t
  | _ => true

/-- Whether something is done for who holds the session. Others only start to wait for it, and are answered when
their time is up. -/
def Effect.concerns (t : Nat) : Effect AnswerResult → Bool
  | .arm _ _ => false
  | .answer t' _ => t' == t
  | _ => true

def doneFor (t : Nat) (effects : List (Effect AnswerResult)) : List (Effect AnswerResult) :=
  effects.filter (Effect.concerns t)

@[simp]
theorem doneFor_append (t : Nat) (effects more : List (Effect AnswerResult)) :
    doneFor t (effects ++ more) = doneFor t effects ++ doneFor t more :=
  List.filter_append _ _

theorem Client.run_cons (c : Client) (e : Event) (es : List Event) :
    c.run (e :: es) = (((c.step e).1.run es).1, (c.step e).2 ++ ((c.step e).1.run es).2) := rfl

theorem Client.run_append (c : Client) (es more : List Event) :
    c.run (es ++ more) = (((c.run es).1.run more).1, (c.run es).2 ++ ((c.run es).1.run more).2) := by
  induction es generalizing c with
  | nil => rfl
  | cons e es ih => rw [List.cons_append, run_cons, ih, run_cons, List.append_assoc]

structure Client.Serving (c : Client) (first : Caller) (activity : Activity) (midFrame : Bool) : Prop where
  first : c.line.head? = some first
  activity : c.activity = activity
  midFrame : c.midFrame = midFrame

/-! ### What others do meanwhile -/

variable {first : Caller} {activity activity' : Activity} {mid mid' : Bool} {c : Client}

theorem Client.Serving.line (h : c.Serving first activity mid) : ∃ rest, c.line = first :: rest :=
  List.head?_eq_some_iff.mp h.first

/-- Who turns up stands in line behind the first. -/
theorem Client.Serving.asked (h : c.Serving first activity mid) (hbusy : activity ≠ .idle) (t : Nat) (wish : Wish) :
    (c.step (.ask t wish)).1.Serving first activity mid ∧
      doneFor first.ticket (c.step (.ask t wish)).2 = [] := by
  obtain ⟨rest, hline⟩ := h.line
  have hjoined : (c.takeUp t wish).1.Serving first activity mid := by
    cases wish <;> exact ⟨by simp [takeUp, enqueue, enqueueClose, hline], h.activity, h.midFrame⟩
  have hquiet : doneFor first.ticket (c.takeUp t wish).2 = [] := by
    cases wish <;> rfl
  have hstep : c.step (.ask t wish) = c.takeUp t wish := by
    have hsettled : (c.takeUp t wish).1.settle = ((c.takeUp t wish).1, []) := if_neg (hjoined.activity ▸ hbusy)
    show ((c.takeUp t wish).1.settle.1, (c.takeUp t wish).2 ++ (c.takeUp t wish).1.settle.2) = _
    rw [hsettled, List.append_nil]
  rw [hstep]
  exact ⟨hjoined, hquiet⟩

theorem Client.Serving.expired (h : c.Serving first activity mid) {t : Nat} (hother : t ≠ first.ticket) :
    (c.step (.expired t)).1.Serving first activity mid ∧ doneFor first.ticket (c.step (.expired t)).2 = [] := by
  obtain ⟨rest, hline⟩ := h.line
  have hfirst : (first.ticket == t) = false := beq_false_of_ne hother.symm
  show (c.expire t).1.Serving first activity mid ∧ doneFor first.ticket (c.expire t).2 = []
  unfold expire
  split
  · exact ⟨h, rfl⟩
  · rw [hline]
    simp only [hfirst]
    refine ⟨⟨?_, h.activity, h.midFrame⟩, ?_⟩
    · simp [hother.symm]
    · simp [doneFor, Effect.concerns, hother]

theorem Client.Serving.withdrawn (h : c.Serving first activity mid) {tickets : List Nat}
    (hother : tickets.contains first.ticket = false) :
    (c.step (.withdrawn tickets)).1.Serving first activity mid ∧
      doneFor first.ticket (c.step (.withdrawn tickets)).2 = [] := by
  obtain ⟨rest, hline⟩ := h.line
  show (c.withdraw tickets).1.Serving first activity mid ∧ doneFor first.ticket (c.withdraw tickets).2 = []
  unfold withdraw
  rw [hline]
  simp only [hother, Bool.false_eq_true, if_false]
  refine ⟨⟨?_, h.activity, h.midFrame⟩, rfl⟩
  show ((first :: rest).filter fun caller => !tickets.contains caller.ticket).head? = some first
  rw [List.filter_cons_of_pos (by rw [hother]; rfl)]
  rfl

theorem Client.Serving.aside (h : c.Serving first activity mid) (hbusy : activity ≠ .idle) {e : Event}
    (he : e.concerns first.ticket = false) :
    (c.step e).1.Serving first activity mid ∧ doneFor first.ticket (c.step e).2 = [] := by
  cases e with
  | ask t wish => exact h.asked hbusy t wish
  | expired t => exact h.expired (ne_of_beq_false he)
  | withdrawn tickets => exact h.withdrawn he
  | _ => cases he

/-! ### From one thing to the next -/

/-- With these events, whatever else happens between them, the client comes from serving its first in one way to
serving it in another, and does these things for it. -/
def Leads (first : Caller) (activity : Activity) (mid : Bool) (events : List Event) (activity' : Activity) (mid' : Bool)
    (done : List (Effect AnswerResult)) : Prop :=
  ∀ (c : Client) (es : List Event), c.Serving first activity mid → es.filter (Event.concerns first.ticket) = events →
    (c.run es).1.Serving first activity' mid' ∧ doneFor first.ticket (c.run es).2 = done

namespace Leads

variable {events more : List Event} {done done' : List (Effect AnswerResult)}

theorem asides (hbusy : activity ≠ .idle) : Leads first activity mid [] activity mid [] := by
  intro c es h hes
  -- On the events, with the client free: that somebody is served in the same way is what each of them keeps.
  induction es generalizing c with
  | nil => exact ⟨h, rfl⟩
  | cons e es ih =>
      rw [List.filter_eq_nil_iff] at hes
      obtain ⟨he, hes⟩ := List.forall_mem_cons.mp hes
      obtain ⟨hnext, hquiet⟩ := h.aside hbusy (eq_false_of_ne_true he)
      obtain ⟨hlast, hrest⟩ := ih _ hnext (List.filter_eq_nil_iff.mpr hes)
      rw [Client.run_cons]
      exact ⟨hlast, by rw [doneFor_append, hquiet, hrest, List.append_nil]⟩

theorem append {activity₁ : Activity} {mid₁ : Bool} (h : Leads first activity mid events activity₁ mid₁ done)
    (hmore : Leads first activity₁ mid₁ more activity' mid' done') :
    Leads first activity mid (events ++ more) activity' mid' (done ++ done') := by
  intro c es hserving hes
  obtain ⟨es₁, es₂, rfl, hes₁, hes₂⟩ := List.filter_eq_append_iff.mp hes
  obtain ⟨hmiddle, hdone⟩ := h c es₁ hserving hes₁
  obtain ⟨hlast, hdone'⟩ := hmore _ es₂ hmiddle hes₂
  rw [Client.run_append]
  exact ⟨hlast, by rw [doneFor_append, hdone, hdone']⟩

/-- One event, with whatever happens before and after it. -/
theorem one {e : Event} (hbusy : activity ≠ .idle) (hbusy' : activity' ≠ .idle)
    (hstep : ∀ c : Client, c.Serving first activity mid →
      (c.step e).1.Serving first activity' mid' ∧ doneFor first.ticket (c.step e).2 = done) :
    Leads first activity mid [e] activity' mid' done := by
  intro c es hserving hes
  obtain ⟨before, after, rfl, hbefore, he, hafter⟩ := List.filter_eq_cons_iff.mp hes
  have hquiet : before.filter (Event.concerns first.ticket) = [] := List.filter_eq_nil_iff.mpr hbefore
  obtain ⟨hready, hnothing⟩ := asides hbusy c before hserving hquiet
  obtain ⟨hnext, hdone⟩ := hstep _ hready
  obtain ⟨hlast, hrest⟩ := asides hbusy' _ after hnext hafter
  rw [Client.run_append, Client.run_cons]
  refine ⟨hlast, ?_⟩
  rw [doneFor_append, doneFor_append, hnothing, hdone, hrest, List.append_nil, List.nil_append]

end Leads

/-! ### Frames that are passed over -/

/-- Who makes a request for some job under a ticket, as it stands in line. -/
def Caller.of (t : Nat) (job : Job) (request : Request) : Caller :=
  ⟨t, job, some request.id, request.method, request.toJson.sorted⟩

@[simp]
theorem Caller.ticket_of (t : Nat) (job : Job) (request : Request) : (Caller.of t job request).ticket = t := rfl

/-- The business is done by requests. -/
structure Job.Asks (job : Job) : Prop where
  close : job ≠ .close
  ready : ∀ server, job ≠ .ready server

/-- The frame can be read, but is not the response to the id. -/
def PassedOver (id : RequestId) (frame : Json) : Prop :=
  ∃ m, classify frame = .ok m ∧ ∀ r, m = .response r → r.id ≠ some id

/-- What the peer gets for a request of its own. -/
def rejection (id : RequestId) : Json := (Response.failure (some id) RpcError.methodNotFound).toJson.sorted

/-- A frame comes; if it is a request of the peer, its rejection is written. -/
def arrival (frame : Json) : List Event :=
  match classify frame with
  | .ok (.request _) => [.received frame, .written]
  | _ => [.received frame]

/-- What is done about a frame that is passed over. -/
def reaction (frame : Json) : List (Effect AnswerResult) :=
  match classify frame with
  | .ok (.request r) => [.send (rejection r.id), .receive]
  | _ => [.receive]

theorem Client.grant_of {job : Job} (hjob : job.Asks) {c : Client} (hwhole : c.midFrame = false) (t : Nat)
    (request : Request) (rest : List Caller) :
    c.grant (.of t job request :: rest) =
      ({ c with line := .of t job request :: rest, activity := .writing, midFrame := true },
        [.hold t, .send request.toJson.sorted]) := by
  cases job with
  | close => exact absurd rfl hjob.close
  | _ => simp [grant, startFrame, Caller.of, hwhole]

theorem Client.Serving.step_received (h : c.Serving first .reading mid) (frame : Json) :
    c.step (.received frame) = c.read first frame := by
  obtain ⟨rest, hline⟩ := h.line
  simp only [step, h.activity, hline]

theorem Client.Serving.step_ended (h : c.Serving first .reading mid) :
    c.step .ended = c.finish first (.error .connectionClosed) := by
  obtain ⟨rest, hline⟩ := h.line
  simp only [step, h.activity, hline]

theorem Client.Serving.step_written (h : c.Serving first .writing mid) (hjob : first.job.Asks) :
    c.step .written = ({ c with midFrame := false, activity := .reading }, [.receive]) := by
  obtain ⟨rest, hline⟩ := h.line
  simp only [step, h.activity, hline, wrote]
  split
  · next hready => exact absurd hready (hjob.ready _)
  · rfl

theorem Client.Serving.step_rejected (h : c.Serving first .rejecting mid) :
    c.step .written = ({ c with midFrame := false, activity := .reading }, [.receive]) := by
  obtain ⟨rest, hline⟩ := h.line
  simp only [step, h.activity, hline]

theorem Client.Serving.step_request (h : c.Serving first .reading false) {frame : Json} {r : Request}
    (hframe : classify frame = .ok (.request r)) :
    c.step (.received frame) = ({ c with activity := .rejecting, midFrame := true }, [.send (rejection r.id)]) := by
  rw [h.step_received]
  simp [read, hframe, startFrame, h.midFrame, rejection]

theorem Client.Serving.step_skipped (h : c.Serving first .reading mid) {id : RequestId}
    (hid : first.request = some id) {frame : Json} {m : Incoming} (hframe : classify frame = .ok m)
    (hrequest : ∀ r, m ≠ .request r) (hother : ∀ r, m = .response r → r.id ≠ some id) :
    c.step (.received frame) = (c, [.receive]) := by
  rw [h.step_received]
  cases m with
  | request r => exact absurd rfl (hrequest r)
  | notification n => simp only [read, hframe]
  | response r => simp only [read, hframe, hid, if_neg (hother r rfl)]

theorem Client.Serving.step_response (h : c.Serving first .reading mid) {id : RequestId}
    (hid : first.request = some id) {frame : Json} {r : Response} (hframe : classify frame = .ok (.response r))
    (hown : r.id = some id) : c.step (.received frame) = c.respond first id r := by
  rw [h.step_received]
  simp only [read, hframe, hid, hown, if_true]

theorem Client.Serving.step_unreadable (h : c.Serving first .reading mid) {frame : Json} {fault : Decode.Fault}
    (hframe : classify frame = .error fault) :
    c.step (.received frame) = c.finish first (.error (.protocol fault.message)) := by
  rw [h.step_received]
  simp only [read, hframe]

theorem Leads.written (hjob : first.job.Asks) : Leads first .writing true [.written] .reading false [.receive] := by
  refine .one nofun nofun fun c h => ?_
  rw [h.step_written hjob]
  exact ⟨⟨h.first, rfl, rfl⟩, rfl⟩

theorem Leads.rejected : Leads first .rejecting true [.written] .reading false [.receive] := by
  refine .one nofun nofun fun c h => ?_
  rw [h.step_rejected]
  exact ⟨⟨h.first, rfl, rfl⟩, rfl⟩

theorem Leads.passed {id : RequestId} {frame : Json} (hid : first.request = some id) (hframe : PassedOver id frame) :
    Leads first .reading false (arrival frame) .reading false (reaction frame) := by
  obtain ⟨m, hm, hother⟩ := hframe
  have hskip (hrequest : ∀ r, m ≠ .request r) :
      Leads first .reading false [.received frame] .reading false [.receive] := by
    refine .one nofun nofun fun c h => ?_
    rw [h.step_skipped hid hm hrequest hother]
    exact ⟨h, rfl⟩
  unfold arrival reaction
  rw [hm]
  cases m with
  | notification n => exact hskip nofun
  | response r => exact hskip nofun
  | request r =>
      have hreject : Leads first .reading false [.received frame] .rejecting true [.send (rejection r.id)] := by
        refine .one nofun nofun fun c h => ?_
        rw [h.step_request hm]
        exact ⟨⟨h.first, rfl, rfl⟩, rfl⟩
      exact hreject.append .rejected

theorem Leads.traffic {id : RequestId} {frames : List Json} (hid : first.request = some id)
    (hframes : ∀ frame ∈ frames, PassedOver id frame) :
    Leads first .reading false (frames.flatMap arrival) .reading false (frames.flatMap reaction) := by
  induction frames with
  | nil => exact .asides nofun
  | cons frame frames ih =>
      obtain ⟨hframe, hframes⟩ := List.forall_mem_cons.mp hframes
      exact (Leads.passed hid hframe).append (ih hframes)

/-! ### The end of the wait -/

/-- What a caller is told first when the response to its request has come. -/
def returned (t : Nat) (id : RequestId) (r : Response) : Effect AnswerResult :=
  match r.error, r.result with
  | some e, _ => .answer t (.error (.server e.code e.message))
  | none, some value => .accept t id value
  | none, none => .answer t (.error (.protocol "Empty response"))

/-- The wait is over for a caller, who is told something first and leaves. Nothing is sent before the session is
given on, and nothing is read any more. -/
structure Concludes (s : Client.Step) (told : Effect AnswerResult) : Prop where
  leaves : ∃ (c : Client) (more : List (Effect AnswerResult)), s = c.leave (told :: more) ∧ ∀ frame, .send frame ∉ more
  deaf : ∀ frame, s.1.step (.received frame) = (s.1, [])

theorem Client.grant_activity (c : Client) (line : List Caller) : (c.grant line).1.activity ≠ .reading := by
  induction line with
  | nil => exact nofun
  | cons first rest ih =>
      unfold grant
      split
      · exact nofun
      · unfold startFrame
        cases c.midFrame with
        | false => exact nofun
        | true => exact ih

theorem Concludes.of_leave (c : Client) (told : Effect AnswerResult) (more : List (Effect AnswerResult))
    (hmore : ∀ frame, .send frame ∉ more) : Concludes (c.leave (told :: more)) told where
  leaves := ⟨c, more, rfl, hmore⟩
  deaf frame := by
    have hreading : (c.leave (told :: more)).1.activity ≠ .reading := Client.grant_activity _ _
    generalize (c.leave (told :: more)).1 = c' at hreading
    -- A frame is taken in only where somebody reads.
    unfold Client.step
    split <;> simp_all

theorem Client.proceed_concludes (c : Client) (caller : Caller) (value : Json) (told : Effect AnswerResult) :
    Concludes ((c.proceed caller value).1, told :: (c.proceed caller value).2) told := by
  have hfinish (result : AnswerResult) :
      Concludes ((c.finish caller result).1, told :: (c.finish caller result).2) told :=
    .of_leave c told [.answer caller.ticket result] (by simp)
  unfold proceed
  split
  · split
    · exact hfinish _
    · exact .of_leave _ told [] nofun
  · split
    · exact hfinish _
    · dsimp only
      split
      · exact hfinish _
      · exact .of_leave _ told [.arm caller.ticket _] (by simp)
  · split <;> exact hfinish _
  all_goals exact hfinish _

theorem Client.finish_concludes (c : Client) (caller : Caller) (result : AnswerResult) :
    Concludes (c.finish caller result) (.answer caller.ticket result) :=
  .of_leave c _ [] nofun

theorem Client.respond_concludes (c : Client) (caller : Caller) (id : RequestId) (r : Response) :
    Concludes (c.respond caller id r) (returned caller.ticket id r) := by
  unfold respond returned
  cases r.error with
  | some e => exact c.finish_concludes caller _
  | none =>
      cases r.result with
      | some value => exact c.proceed_concludes caller value _
      | none => exact c.finish_concludes caller _

/-- Whoever gets a whole session with a request sends it and waits. Whatever frames come that are not its response,
they are passed over one by one, and nothing is sent but one rejection for each request of the peer, under its id.
The response is returned as it is; a frame that cannot be read and the end of the stream are failures. None of this
depends on what others do meanwhile. -/
theorem request_amid_traffic {c : Client} (hwhole : c.midFrame = false) {job : Job} (hjob : job.Asks) (t : Nat)
    (request : Request) (rest : List Caller) {frames : List Json}
    (hframes : ∀ frame ∈ frames, PassedOver request.id frame) {events : List Event}
    (hevents : events.filter (Event.concerns t) = .written :: frames.flatMap arrival) :
    let start := c.grant (.of t job request :: rest)
    let wait := start.1.run events
    doneFor t (start.2 ++ wait.2) =
        [.hold t, .send request.toJson.sorted, .receive] ++ frames.flatMap reaction ∧
      (∀ frame r, classify frame = .ok (.response r) → r.id = some request.id →
        Concludes (wait.1.step (.received frame)) (returned t request.id r)) ∧
      (∀ frame fault, classify frame = .error fault →
        Concludes (wait.1.step (.received frame)) (.answer t (.error (.protocol fault.message)))) ∧
      Concludes (wait.1.step .ended) (.answer t (.error .connectionClosed)) := by
  intro start wait
  have hstart := Client.grant_of hjob hwhole t request rest
  have hserving : start.1.Serving (.of t job request) .writing true := by
    simp only [start, hstart]
    exact ⟨rfl, rfl, rfl⟩
  have hwritten : Leads (.of t job request) .writing true [.written] .reading false [.receive] := .written hjob
  have hleads : Leads (.of t job request) .writing true ([.written] ++ frames.flatMap arrival) .reading false
      ([.receive] ++ frames.flatMap reaction) := hwritten.append (.traffic rfl hframes)
  obtain ⟨hwait, hdone⟩ := hleads _ events hserving hevents
  have hfirst : doneFor t start.2 = [.hold t, .send request.toJson.sorted] := by
    simp only [start, hstart]
    rfl
  refine ⟨?_, fun frame r hframe hid => ?_, fun frame fault hframe => ?_, ?_⟩
  · rw [doneFor_append, hfirst]
    exact congrArg _ hdone
  · rw [hwait.step_response rfl hframe hid]
    exact wait.1.respond_concludes _ _ _
  · rw [hwait.step_unreadable hframe]
    exact wait.1.finish_concludes _ _
  · rw [hwait.step_ended]
    exact wait.1.finish_concludes _ _

/-- The peer asks something under the very id that is waited for, and answers somebody else. -/
def crossTalk : List Json :=
  [(Request.toJson { id := .text "x", method := "roots/list" }), (Notification.toJson { method := "log" }),
    (Response.success (.text "y") "late").toJson]

theorem request_amid_traffic_sample :
    let start := Client.grant { limit := 100 } [.of 0 .ping { id := .text "x", method := Method.ping }]
    let wait := start.1.run (.ask 1 .ping :: .written :: crossTalk.flatMap arrival)
    (∀ frame ∈ crossTalk, PassedOver (.text "x") frame) ∧
      doneFor 0 (start.2 ++ wait.2) =
        [.hold 0, .send (Request.toJson { id := .text "x", method := Method.ping }).sorted, .receive,
          .send (rejection (.text "x")), .receive, .receive, .receive] ∧
      Concludes (wait.1.step (.received (Response.success (.text "x") "pong").toJson))
        (.accept 0 (.text "x") "pong") := by
  have hframes : ∀ frame ∈ crossTalk, PassedOver (.text "x") frame := by
    simp only [crossTalk, List.forall_mem_cons]
    exact ⟨⟨_, rfl, nofun⟩, ⟨_, rfl, nofun⟩, ⟨_, rfl, fun r hr => by cases hr; simp⟩, nofun⟩
  have h := @request_amid_traffic { limit := 100 } rfl .ping ⟨nofun, nofun⟩ 0
    { id := .text "x", method := Method.ping } [] crossTalk hframes
    (.ask 1 .ping :: .written :: crossTalk.flatMap arrival) rfl
  exact ⟨hframes, h.1, h.2.1 _ (.success (.text "x") "pong") rfl rfl⟩

end Colloquy.Session
