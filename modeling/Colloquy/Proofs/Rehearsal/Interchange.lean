import Colloquy.Rehearsal.Play
import Colloquy.Proofs.Rehearsal.Bench
import Colloquy.Proofs.Session.Exchange
import Colloquy.Proofs.Session.Lifecycle
import Colloquy.Proofs.Tool.Registry

/-! The program's own tools, called in the program and over a session with a server that serves them. The session
is set up with the schemas of the tools (`connect_outcome`), and each call finds it free and leaves it so
(`Attending.invoke`). So what a call comes to over the session depends on what it comes to in the program and
on nothing else (`transports_interchangeable`). -/

namespace Colloquy.Rehearsal

open Session Server

/-- The peer is a server of the tools, and does nothing of its own. It answers before anybody's limit is over. -/
structure Peer.Serves (peer : Peer) (t : LocalTools Id) (who : Identity) : Prop where
  script : peer.script = []
  stream : peer.stream = []
  answers : peer.answers = served (handlerOf t) who

/-- A toolbox in a session with a server of the tools, where nothing is under way. -/
structure Attending (t : LocalTools Id) (who : Identity) (b : ToolboxBench) : Prop where
  resting : b.Resting
  deadlines : b.deadlines = []
  step : b.step = fun node e => node.step (.session e)
  answers : b.peer.answers = served (handlerOf t) who
  fresh : b.node.Fresh
  calling : b.node.calling = []
  schemas : b.node.schemas = t.registry.schemas
  /-- Only tickets that were handed out are answered. -/
  issued : ∀ ticket, b.issued ≤ ticket → b.answer? ticket = none

variable {t : LocalTools Id} {who : Identity} {b : ToolboxBench}

/-! ### Connecting -/

theorem ofSchema_toSchema (schemas : List ToolSchema) :
    (schemas.map Rpc.ServerTool.ofSchema).map Rpc.ServerTool.toSchema = schemas := by
  rw [List.map_map]
  exact List.map_id schemas

/-- The bench of a connection on which nothing has happened. -/
def idleBench (peer : Peer) (limit : Nat) : Bench Connection Unit :=
  { node := (Connection.start limit).1, step := Connection.step, peer, limit, issued := 1 }

/-- The bench of a connection over which the three frames of an introduction went out. -/
def introducedBench (peer : Peer) (limit : Nat) : Bench Connection Unit :=
  ((((idleBench peer limit).armed Connection.ticket).noted Connection.handshakeRequest.toJson.sorted).noted
    Connection.readyNote.toJson.sorted).armed Connection.ticket |>.noted Connection.listingRequest.toJson.sorted

/-- What the server says of itself. -/
def welcomeOf (who : Identity) : Rpc.Welcome := ⟨Rpc.protocolVersion, ⟨some {}⟩, ⟨who.name, who.version⟩⟩

/-- The connection that knows the server and its tools. -/
def knowing (t : LocalTools Id) (who : Identity) (limit : Nat) : Connection :=
  .complete limit (welcomeOf who) (t.registry.schemas.map Rpc.ServerTool.ofSchema)

theorem Peer.Serves.introduced {peer : Peer} (h : peer.Serves t who) (limit : Nat) :
    (introducedBench peer limit).Resting := ⟨h.script, h.stream, rfl, rfl, rfl⟩

/-- The server answers the handshake and tells its tools. -/
theorem push_start {peer : Peer} (hpeer : peer.Serves t who) (hschemas : Announceable t.registry.schemas)
    (limit : Nat) : (idleBench peer limit).push (Connection.start limit) =
      ((introducedBench peer limit).moved (knowing t who limit)).told Connection.ticket () := by
  obtain ⟨greeted, hgreeted, hwelcome⟩ := served_handshake (handlerOf t) who Connection.handshakeRequest rfl
  obtain ⟨listed, hlisted, htools⟩ := served_listing hschemas who Connection.listingRequest rfl
  have hready := served_notification (handlerOf t) who Connection.readyNote
  rw [← hpeer.answers] at hgreeted hlisted hready
  have hidle : (idleBench peer limit).Resting := ⟨hpeer.script, hpeer.stream, rfl, rfl, rfl⟩
  have hgreeting := hidle.armed Connection.ticket
  have hreadying := hgreeting.noted Connection.handshakeRequest.toJson.sorted
  have hquiet := hreadying.noted Connection.readyNote.toJson.sorted
  have hlisting := hquiet.armed Connection.ticket
  obtain ⟨fuel, hfuel⟩ := (idleBench peer limit).enough_eq
  have hgreet := Bench.settle_answered hgreeting (show _ = Connection.step from rfl) (Connection.greeting_written limit)
    hgreeted (Connection.greeting_received limit (welcomeOf who) hwelcome (decode_welcomeJson who)) (fuel + 8)
  have hsettle := Bench.settle_unanswered hreadying (show _ = Connection.step from rfl)
    (Connection.readying_written limit (welcomeOf who)) hready (fuel + 7)
  have hlist := Bench.settle_answered hlisting (show _ = Connection.step from rfl)
    (Connection.listing_written limit (welcomeOf who)) hlisted
    (Connection.listing_received limit (welcomeOf who) htools (decode_toolsJson hschemas)) (fuel + 5)
  rw [Bench.push, hfuel, Connection.start_eq, Bench.took_request hidle, hgreet, Bench.took_send hreadying, hsettle,
    Bench.took_request hquiet, hlist, Bench.took_answer]
  exact Bench.settle_resting (((hpeer.introduced limit).moved _).told _ _) _

/-- The tools of a server that has just been connected to, on the bench. -/
def connectedBench (peer : Peer) (t : LocalTools Id) (who : Identity) (limit : Nat) : ToolboxBench where
  node := { client := (knowing t who limit).client, serverName := who.name, schemas := t.registry.schemas }
  step := fun node e => node.step (.session e)
  peer := peer
  limit := limit
  issued := 1

theorem connect_outcome {peer : Peer} (hpeer : peer.Serves t who) (hschemas : Announceable t.registry.schemas)
    (limit : Nat) : (connect peer limit).outcome = .ok (connectedBench peer t who limit) := by
  have hended : ((idleBench peer limit).push (Connection.start limit)).await [Connection.ticket] none =
      ((introducedBench peer limit).moved (knowing t who limit)).told Connection.ticket () := by
    rw [push_start hpeer hschemas]
    exact Bench.await_resting (((hpeer.introduced limit).moved _).told _ _) rfl rfl none
  have hnode : (knowing t who limit).toolbox? = some (connectedBench peer t who limit).node := by
    rw [Connection.toolbox?, knowing, Connection.complete, ofSchema_toSchema]
    rfl
  unfold connect
  unfold idleBench at hended
  dsimp only
  rw [hended]
  simp only [Bench.told, Bench.moved, hnode]
  rfl

theorem connectedBench_attending {peer : Peer} (hpeer : peer.Serves t who) (limit : Nat) :
    Attending t who (connectedBench peer t who limit) where
  resting := ⟨hpeer.script, hpeer.stream, rfl, rfl, rfl⟩
  deadlines := rfl
  step := rfl
  answers := hpeer.answers
  fresh := ⟨rfl, rfl, rfl, rfl, rfl⟩
  calling := rfl
  schemas := rfl
  issued _ _ := rfl

/-! ### Calls -/

/-- What is left of an outcome that is told over a session: a payload as its text, or a failure. -/
def conveyed : ToolOutcome → ToolOutcome
  | .ok payload => .ok (.str payload.payloadText)
  | .error e => .error (.executionFailed (failureText e))

/-- What a call comes to over a session with the tools. -/
def overSession (t : LocalTools Id) (name : String) (arguments : Json) : ToolOutcome :=
  if (t.registry.get? name).isSome then conveyed (Id.run (t.invoke name arguments)).outcome
  else .error (.notFound name)

theorem outcomeOf_calledResult (t : LocalTools Id) (name : String) (arguments : Json) :
    Toolbox.outcomeOf (.ok (.call (calledResult t name arguments))) =
      conveyed (Id.run (t.invoke name arguments)).outcome := by
  rw [calledResult, Toolbox.outcomeOf]
  cases (Id.run (t.invoke name arguments)).outcome <;>
    simp only [servedOutcome, callResult, Rpc.CallResult.text_ofText] <;> rfl

/-- The answers that are there stay. -/
def KeepsAnswers (b b' : ToolboxBench) : Prop :=
  ∀ ticket reply, b.answer? ticket = some reply → b'.answer? ticket = some reply

theorem KeepsAnswers.trans {b' b'' : ToolboxBench} (h : KeepsAnswers b b') (h' : KeepsAnswers b' b'') :
    KeepsAnswers b b'' := fun ticket reply hreply => h' ticket reply (h ticket reply hreply)

theorem Attending.refusal? (h : Attending t who b) (hregistry : t.registry.Coherent) (name : String) :
    b.node.refusal? name = if (t.registry.get? name).isSome then none else some (.notFound name) := by
  have hannounced : b.node.Announces name ↔ (t.registry.get? name).isSome := by
    rw [hregistry.isSome_get?_iff, Toolbox.Announces, h.schemas]
  obtain ⟨hname, hnone⟩ | ⟨hname, hnotFound⟩ := Toolbox.refusal?_of_usable name h.fresh.not_unusable
  · rw [if_pos (hannounced.mp hname), hnone]
  · rw [if_neg (mt hannounced.mpr hname), hnotFound]

/-- A bench on which a call was answered attends as before. -/
theorem Attending.answered {b' : ToolboxBench} {reply : Reply} (h : Attending t who b) (hresting : b'.Resting)
    (hdeadlines : b'.deadlines = []) (hstep : b'.step = b.step) (hpeer : b'.peer.answers = b.peer.answers)
    (hfresh : b'.node.Fresh) (hcalling : b'.node.calling = []) (hschemas : b'.node.schemas = b.node.schemas)
    (hissued : b'.issued = b.issued + 1) (hanswers : b'.answers = b.answers ++ [(b.issued, reply)]) :
    Attending t who b' ∧ KeepsAnswers b b' ∧ b'.answer? b.issued = some reply := by
  have hlookup (ticket : Nat) : b'.answer? ticket = (b.answer? ticket).or ([(b.issued, reply)].lookup ticket) := by
    rw [Bench.answer?, hanswers, List.lookup_append]
    rfl
  refine ⟨⟨hresting, hdeadlines, hstep.trans h.step, hpeer.trans h.answers, hfresh, hcalling,
    hschemas.trans h.schemas, ?_⟩, ?_, ?_⟩
  · intro ticket hticket
    have hearlier : b.issued ≤ ticket ∧ ticket ≠ b.issued := by omega
    rw [hlookup, h.issued ticket hearlier.1, List.lookup_cons, beq_eq_false_iff_ne.mpr hearlier.2]
    rfl
  · intro ticket given hgiven
    rw [hlookup, hgiven]
    rfl
  · rw [hlookup, h.issued _ (Nat.le_refl _)]
    simp

/-- The bench when the request of a call went out and was answered. -/
def calledBench (b : ToolboxBench) (name : String) (arguments : Json) : ToolboxBench :=
  (b.ticketed.armed b.issued).noted (b.node.nextRequest name arguments).toJson.sorted |>.moved b.node.advanced

theorem Attending.invoke_known (h : Attending t who b) {name : String} {arguments : Json}
    (hname : b.node.refusal? name = none) (harguments : arguments.Canonical) :
    ToolboxBench.invoke b name arguments = (b.issued, (calledBench b name arguments).told b.issued
      (.outcome (Toolbox.outcomeOf (.ok (.call (calledResult t name arguments)))))) := by
  obtain ⟨answer, hanswer, hresult⟩ := served_call harguments t who (b.node.nextRequest name arguments) rfl rfl
  rw [← h.answers] at hanswer
  have harmed := h.resting.ticketed.armed b.issued
  have hcalled : (calledBench b name arguments).Resting := (harmed.noted _).moved _
  obtain ⟨fuel, hfuel⟩ := b.ticketed.enough_eq
  have hexchange := Bench.settle_answered harmed h.step (Toolbox.serving_written b.node b.issued name arguments) hanswer
    (Toolbox.serving_received h.fresh h.calling b.issued name arguments hresult (decode_calledResult t name arguments))
    (fuel + 8)
  have hcall := Toolbox.step_alone hname h.fresh.line h.fresh.activity h.fresh.midFrame b.issued arguments
  rw [ToolboxBench.invoke, Bench.submit_eq, Bench.push, hfuel, hcall, Bench.took_request h.resting.ticketed, hexchange,
    Bench.took_answer]
  exact congrArg _ (Bench.settle_resting (hcalled.told _ _) _)

theorem Attending.invoke_unknown (h : Attending t who b) {name : String} {e : ToolError} (arguments : Json)
    (hname : b.node.refusal? name = some e) :
    ToolboxBench.invoke b name arguments = (b.issued, b.ticketed.told b.issued (.outcome (.error e))) := by
  rw [ToolboxBench.invoke, Bench.submit_eq, Bench.push, Toolbox.step_refused hname]
  exact congrArg _ (Bench.settle_resting (h.resting.ticketed.told _ _) _)

/-- A call is answered at once with what it comes to, and the session is as before. -/
theorem Attending.invoke (h : Attending t who b) (hregistry : t.registry.Coherent) (name : String) {arguments : Json}
    (harguments : arguments.Canonical) :
    ∃ b', ToolboxBench.invoke b name arguments = (b.issued, b') ∧ b'.now = b.now ∧ Attending t who b' ∧
      KeepsAnswers b b' ∧ b'.answer? b.issued = some (.outcome (overSession t name arguments)) := by
  have hrefusal := h.refusal? hregistry name
  by_cases hname : (t.registry.get? name).isSome
  · rw [if_pos hname] at hrefusal
    have hcalled : (calledBench b name arguments).Resting := ((h.resting.ticketed.armed _).noted _).moved _
    rw [overSession, if_pos hname, ← outcomeOf_calledResult]
    refine ⟨_, h.invoke_known hrefusal harguments, rfl, h.answered (hcalled.told _ _) ?_ rfl rfl h.fresh.advanced
      h.calling rfl rfl rfl⟩
    simp [Bench.told, calledBench, Bench.moved, Bench.noted, Bench.armed, Bench.ticketed, h.deadlines]
  · rw [if_neg hname] at hrefusal
    rw [overSession, if_neg hname]
    refine ⟨_, h.invoke_unknown arguments hrefusal, rfl, h.answered (h.resting.ticketed.told _ _) ?_ rfl rfl h.fresh
      h.calling rfl rfl rfl⟩
    simp [Bench.told, Bench.ticketed, h.deadlines]

/-- Each of several calls is answered with what it comes to. -/
theorem Attending.invokeAll (h : Attending t who b) (hregistry : t.registry.Coherent) {calls : List (String × Json)}
    (hcalls : ∀ c ∈ calls, c.2.Canonical) :
    ∃ tickets b', ToolboxBench.invokeAll b calls = (tickets, b') ∧ b'.now = b.now ∧ Attending t who b' ∧
      KeepsAnswers b b' ∧
      List.Forall₂ (fun ticket c => b'.answer? ticket = some (.outcome (overSession t c.1 c.2))) tickets calls := by
  induction calls generalizing b with
  | nil => exact ⟨[], b, rfl, rfl, h, fun _ _ hreply => hreply, .nil⟩
  | cons c calls ih =>
      obtain ⟨name, arguments⟩ := c
      obtain ⟨b₁, hfirst, hnow₁, hattends, hkept₁, hanswer⟩ :=
        h.invoke hregistry name (hcalls _ List.mem_cons_self)
      obtain ⟨tickets, b₂, hrest, hnow₂, hattends, hkept₂, hanswers⟩ :=
        ih hattends fun c hc => hcalls c (List.mem_cons_of_mem _ hc)
      refine ⟨b.issued :: tickets, b₂, ?_, hnow₂.trans hnow₁, hattends, hkept₁.trans hkept₂,
        .cons (hkept₂ _ _ hanswer) hanswers⟩
      simp only [ToolboxBench.invokeAll, hfirst, hrest]

theorem answered_of_answers {tickets : List Nat} {calls : List (String × Json)}
    (h : List.Forall₂ (fun ticket c => b.answer? ticket = some (.outcome (overSession t c.1 c.2))) tickets calls) :
    b.answered tickets = true := by
  refine List.all_eq_true.mpr fun ticket hticket => ?_
  obtain ⟨i, hi, rfl⟩ := List.mem_iff_getElem.mp hticket
  have hanswer := (List.forall₂_iff_get.mp h).2 i hi ((List.forall₂_iff_get.mp h).1 ▸ hi)
  obtain ⟨a, ha, hsame⟩ := List.lookup_isSome_iff.mp (Option.isSome_of_eq_some hanswer)
  exact List.any_eq_true.mpr ⟨a, ha, beq_iff_eq.mpr (beq_iff_eq.mp hsame).symm⟩

/-- The crew comes back at once, with what each call comes to. -/
theorem Attending.crew (h : Attending t who b) (hregistry : t.registry.Coherent) {calls : List ToolCall}
    (hcalls : ∀ c ∈ calls, c.arguments.Canonical) (now : Nat) (horizon : Option Nat) :
    ∃ outcomes b', serverCrew.invoke calls now horizon b = ((some outcomes, now), b') ∧ Attending t who b' ∧
      ∀ (i : Nat) (hi : i < calls.length), outcomes[i] = overSession t calls[i].toolName calls[i].arguments := by
  have hnow : Attending t who { b with now } :=
    ⟨⟨h.resting.script, h.resting.stream, h.resting.write, h.resting.waiting, h.resting.closing⟩, h.deadlines, h.step,
      h.answers, h.fresh, h.calling, h.schemas, h.issued⟩
  have hgiven : ∀ c ∈ calls.map (fun c => (c.toolName, c.arguments)), c.2.Canonical := by simpa using hcalls
  obtain ⟨tickets, b', hinvoked, htime, hattends, -, hanswers⟩ := hnow.invokeAll hregistry hgiven
  have hanswered := answered_of_answers hanswers
  have hawait := Bench.await_resting hattends.resting hattends.deadlines hanswered horizon
  obtain ⟨hlength, hget⟩ := List.forall₂_iff_get.mp hanswers
  rw [List.length_map] at hlength
  refine ⟨Vector.ofFn fun i => outcomeIn (b'.answer? (tickets.getD i 0)), b', ?_, hattends, fun i hi => ?_⟩
  · simp only [serverCrew, hinvoked, hawait, hanswered, if_true, htime]
  · have hticket : i < tickets.length := by omega
    have hanswer := hget i hticket (by simpa using hi)
    rw [Vector.getElem_ofFn, List.getD_eq_getElem?_getD, List.getElem?_eq_getElem hticket, Option.getD_some]
    simp only [List.get_eq_getElem, List.getElem_map] at hanswer
    rw [hanswer]
    rfl

/-! ### What a call comes to -/

/-- How what a call comes to over a session depends on what it comes to in the program. -/
structure Interchanged (t : LocalTools Id) (call : ToolCall) (here there : ToolOutcome) : Prop where
  /-- A payload becomes its text. -/
  payload : ∀ v, here = .ok v → there = .ok (.str v.payloadText)
  /-- So a result reads the same. -/
  reading : ∀ v, here = .ok v → ∃ r r', Message.ofOutcome call here = .toolResult r ∧
    Message.ofOutcome call there = .toolResult r' ∧ r'.payload.payloadText = r.payload.payloadText ∧
      r'.isError = r.isError
  unregistered : t.registry.get? call.toolName = none →
    here = .error (.notFound call.toolName) ∧ there = .error (.notFound call.toolName)
  /-- The failure that a tool tells of stays. -/
  failed : (t.registry.get? call.toolName).isSome →
    ∀ reason, here = .error (.executionFailed reason) → there = .error (.executionFailed reason)
  /-- Any other error of a tool becomes a failure with the text of the error. -/
  raised : (t.registry.get? call.toolName).isSome →
    ∀ e, here = .error e → (∀ reason, e ≠ .executionFailed reason) → there = .error (.executionFailed e.message)

theorem overSession_interchanged (t : LocalTools Id) (call : ToolCall) :
    Interchanged t call (Id.run (t.invoke call.toolName call.arguments)).outcome
      (overSession t call.toolName call.arguments) := by
  have hunregistered (hname : t.registry.get? call.toolName = none) :
      (Id.run (t.invoke call.toolName call.arguments)).outcome = .error (.notFound call.toolName) := by
    rw [LocalTools.invoke, hname]
    rfl
  have hregistered (hname : (t.registry.get? call.toolName).isSome) :
      overSession t call.toolName call.arguments =
        conveyed (Id.run (t.invoke call.toolName call.arguments)).outcome := if_pos hname
  have hpayload : ∀ v, (Id.run (t.invoke call.toolName call.arguments)).outcome = .ok v →
      overSession t call.toolName call.arguments = .ok (.str v.payloadText) := by
    intro v hv
    cases hname : t.registry.get? call.toolName with
    | none => cases (hunregistered hname).symm.trans hv
    | some tool => rw [hregistered (by simp [hname]), hv, conveyed]
  constructor
  case payload => exact hpayload
  case reading =>
    intro v hv
    rw [hpayload v hv, hv]
    exact ⟨_, _, rfl, rfl, rfl, rfl⟩
  case unregistered =>
    intro hname
    exact ⟨hunregistered hname, if_neg (by simp [hname])⟩
  case failed =>
    intro hname reason hreason
    rw [hregistered hname, hreason, conveyed, failureText]
  case raised =>
    intro hname e he hother
    rw [hregistered hname, he, conveyed, failureText]
    exact hother

/-! ### The two ways to call tools -/

/-- Benches that come of one when calls are made. -/
inductive Used (b : ToolboxBench) : ToolboxBench → Prop
  | fresh : Used b b
  | called {b' : ToolboxBench} {calls : List ToolCall} (now : Nat) (horizon : Option Nat) : Used b b' →
      (∀ c ∈ calls, c.arguments.Canonical) → Used b (serverCrew.invoke calls now horizon b').2

theorem Attending.used {b' : ToolboxBench} (h : Attending t who b) (hregistry : t.registry.Coherent)
    (hused : Used b b') : Attending t who b' := by
  induction hused with
  | fresh => exact h
  | called now horizon _ hcalls ih =>
      obtain ⟨outcomes, b', hinvoked, hattends, -⟩ := ih.crew hregistry hcalls now horizon
      rwa [hinvoked]

/-- The tools are announced over a session as they are, and whenever calls are made over it, what they come to is
what they come to in the program but for the form of it. -/
def Interchangeable (t : LocalTools Id) (b : ToolboxBench) : Prop :=
  ∀ b', Used b b' → b'.node.schemas = t.registry.schemas ∧
    ∀ (calls : List ToolCall) (now : Nat) (horizon : Option Nat), (∀ c ∈ calls, c.arguments.Canonical) →
      ∃ outcomes, (serverCrew.invoke calls now horizon b').1 = (some outcomes, now) ∧
        ∀ (i : Nat) (hi : i < calls.length), Interchanged t calls[i]
          (Id.run (t.invoke calls[i].toolName calls[i].arguments)).outcome outcomes[i]

/-- Any registry of tools can be served over a session instead of being called in the program. Connecting to the
server succeeds, the tools are those of the registry in their order, and whatever is called then and in which
batches, a payload comes back as its text, a tool that is not there is not found, a failure keeps its reason, and
any other error of a tool becomes a failure with the text of the error. -/
theorem transports_interchangeable {tools : List (Tool (Json → Id Timed))} {t : LocalTools Id} {who : Identity}
    {peer : Peer} (hregistered : Registry.empty.registerAll tools = .ok t.registry)
    (hschemas : Announceable t.registry.schemas) (hpeer : peer.Serves t who) (limit : Nat) :
    ∃ b, (connect peer limit).outcome = .ok b ∧ Interchangeable t b := by
  have hcoherent := Registry.empty_coherent.registerAll hregistered
  refine ⟨_, connect_outcome hpeer hschemas limit, fun b' hused => ?_⟩
  have hattends := (connectedBench_attending hpeer limit).used hcoherent hused
  refine ⟨hattends.schemas, fun calls now horizon hcalls => ?_⟩
  obtain ⟨outcomes, b'', hinvoked, -, houtcomes⟩ := hattends.crew hcoherent hcalls now horizon
  refine ⟨outcomes, by rw [hinvoked], fun i hi => ?_⟩
  rw [houtcomes i hi]
  exact overSession_interchanged t calls[i]

/-- A tool that gives its arguments back, and fails without them. -/
def echo : Tool (Json → Id Timed) where
  schema := ⟨"echo", "Gives its arguments back", Rpc.emptyObjectSchema⟩
  action
    | .null => { outcome := .error (.invalidParams "nothing to give back") }
    | arguments => { outcome := .ok arguments }

def echoTools : LocalTools Id := { registry := ⟨#[echo], Std.HashMap.emptyWithCapacity.insert "echo" 0⟩ }

def echoPeer : Peer := { answers := served (handlerOf echoTools) {} }

theorem transports_interchangeable_echo :
    Registry.empty.registerAll [echo] = .ok echoTools.registry ∧ Announceable echoTools.registry.schemas ∧
      echoPeer.Serves echoTools {} ∧ ∃ b, (connect echoPeer 1000).outcome = .ok b ∧ Interchangeable echoTools b := by
  have hregistered : Registry.empty.registerAll [echo] = .ok echoTools.registry := by
    rw [Registry.registerAll, Registry.register, if_neg (by simp [Registry.empty])]
    rfl
  have hschemas : Announceable echoTools.registry.schemas := by
    intro s hs
    simp only [Registry.schemas, echoTools, List.map_cons, List.map_nil, List.mem_singleton] at hs
    rw [hs, Json.Canonical]
    rfl
  have hpeer : echoPeer.Serves echoTools {} := ⟨rfl, rfl, rfl⟩
  exact ⟨hregistered, hschemas, hpeer, transports_interchangeable hregistered hschemas hpeer 1000⟩

end Colloquy.Rehearsal
