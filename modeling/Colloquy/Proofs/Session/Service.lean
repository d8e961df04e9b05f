import Mathlib.Data.List.Forall2
import Colloquy.Session.Toolbox
import Colloquy.Proofs.Session.Handover

/-! The log of a toolbox, and what its client does for it. A toolbox passes on what its client does mark by
mark (`Shown`), so what holds of handing the session on holds of its log, where a caller is known by the call
or the shutdown that put it in line (`Serves`, `Toolbox.log_served`). -/

namespace Colloquy.Session

open Rpc

inductive ToolboxMark where
  | event (e : ToolboxEvent)
  | effect (f : Effect Reply)

abbrev ToolboxLog := List ToolboxMark

namespace Toolbox

/-- The marks that an event leaves. -/
abbrev stepLog (b : Toolbox) (e : ToolboxEvent) : ToolboxLog := .event e :: (b.step e).2.map .effect

def log (b : Toolbox) : List ToolboxEvent → ToolboxLog
  | [] => []
  | e :: es => b.stepLog e ++ (b.step e).1.log es

/-- The toolbox after some events. -/
def after (b : Toolbox) (es : List ToolboxEvent) : Toolbox := es.foldl (fun b e => (b.step e).1) b

end Toolbox

/-- What a mark tells of the stream of frames. -/
def ToolboxMark.wire? : ToolboxMark → Option Mark
  | .event (.session e) => some (.event e)
  | .effect (.send frame) => some (.effect (.send frame))
  | .effect .abandon => some (.effect .abandon)
  | .effect .close => some (.effect .close)
  | _ => none

/-- What a log tells of the stream of frames. -/
def wire (log : ToolboxLog) : Log := log.filterMap ToolboxMark.wire?

/-- The request is a call of a tool. -/
structure Calls (request : Request) (name : String) (arguments : Json) : Prop where
  method : request.method = Method.toolsCall
  params : request.params = some (.obj [("arguments", arguments), ("name", name)])

/-- What is done for a caller that gets the session: its shutdown closes the transport, and the frame of its
call is sent, unless the stream is broken. -/
inductive Served (before : ToolboxLog) (t : Nat) : Option ToolboxMark → Prop where
  | close (hevent : .event (.shutdown t) ∈ before) : Served before t (some (.effect .close))
  | send {name : String} {arguments : Json} {request : Request} (hevent : .event (.invoke t name arguments) ∈ before)
      (harm : .effect (.arm t request) ∈ before) (hcalls : Calls request name arguments)
      (hall : Whole (attempts (wire before))) : Served before t (some (.effect (.send request.toJson.sorted)))
  | refuse {name : String} {arguments : Json} {reply : Reply} (hevent : .event (.invoke t name arguments) ∈ before)
      (hall : Broken (attempts (wire before))) : Served before t (some (.effect (.answer t reply)))

def ServiceRule (before : ToolboxLog) (m : ToolboxMark) (after : ToolboxLog) : Prop :=
  match m with
  | .effect (.hold t) => Served before t after.head?
  | .effect (.send _) | .effect .close => .effect .close ∉ before
  | _ => True

theorem ServiceRule.append {before after : ToolboxLog} {m : ToolboxMark} (h : ServiceRule before m after)
    (more : ToolboxLog) : ServiceRule before m (after ++ more) := by
  unfold ServiceRule at h ⊢
  split at h
  · have hhead : (after ++ more).head? = after.head? := by
      cases after with
      | nil => cases h
      | cons => rfl
    rwa [hhead]
  · exact h
  · exact h
  · trivial

/-! ### Marks of a client in the log of its toolbox -/

/-- How a mark of the client is shown in the log of the toolbox. -/
inductive Shown : Mark → ToolboxMark → Prop where
  | event (e : Event) : Shown (.event e) (.event (.session e))
  | hold (t : Nat) : Shown (.effect (.hold t)) (.effect (.hold t))
  | send (frame : Json) : Shown (.effect (.send frame)) (.effect (.send frame))
  | receive : Shown (.effect .receive) (.effect .receive)
  | close : Shown (.effect .close) (.effect .close)
  | abandon : Shown (.effect .abandon) (.effect .abandon)
  | arm (t : Nat) (request : Request) : Shown (.effect (.arm t request)) (.effect (.arm t request))
  | accept (t : Nat) (id : RequestId) (value : Json) :
      Shown (.effect (.accept t id value)) (.effect (.accept t id value))
  | answer (t : Nat) (result : AnswerResult) (reply : Reply) :
      Shown (.effect (.answer t result)) (.effect (.answer t reply))

namespace Toolbox

variable (b : Toolbox) (effects : List (Effect AnswerResult))

theorem relay_shown (f : Effect AnswerResult) : Shown (.effect f) (.effect (b.relay f).2) := by
  unfold relay
  split
  case h_8 => split <;> exact .answer _ _ _
  all_goals constructor

theorem relay_same (f : Effect AnswerResult) :
    (b.relay f).1.client = b.client ∧ (b.relay f).1.closed = b.closed ∧ (b.relay f).1.schemas = b.schemas := by
  unfold relay
  split
  case h_8 => split <;> exact ⟨rfl, rfl, rfl⟩
  all_goals exact ⟨rfl, rfl, rfl⟩

theorem relayAll_shown : List.Forall₂ Shown (marks effects) ((b.relayAll effects).2.map .effect) := by
  induction effects generalizing b with
  | nil => exact .nil
  | cons f effects ih => exact .cons (b.relay_shown f) (ih _)

theorem relayAll_same : (b.relayAll effects).1.client = b.client ∧ (b.relayAll effects).1.closed = b.closed ∧
    (b.relayAll effects).1.schemas = b.schemas := by
  induction effects generalizing b with
  | nil => exact ⟨rfl, rfl, rfl⟩
  | cons f effects ih =>
      obtain ⟨hclient, hclosed, hschemas⟩ := b.relay_same f
      rw [← hclient, ← hclosed, ← hschemas]
      exact ih _

end Toolbox

/-- The two logs tell the same of the stream of frames and of its closing. -/
structure Mirrors (log : Log) (shown : ToolboxLog) : Prop where
  attempts : Session.attempts log = Session.attempts (wire shown)
  close : .effect .close ∈ log ↔ .effect .close ∈ shown

variable {line : List Caller} {log more : Log} {before told : ToolboxLog}

theorem mirrors_wire (shown : ToolboxLog) : Mirrors (wire shown) shown where
  attempts := rfl
  close := by
    rw [wire, List.mem_filterMap]
    constructor
    · rintro ⟨m, hmem, hwire⟩
      unfold ToolboxMark.wire? at hwire
      split at hwire <;> cases hwire
      exact hmem
    · exact fun hmem => ⟨_, hmem, rfl⟩

theorem Mirrors.step {m : Mark} {m' : ToolboxMark} (h : Mirrors log before) (hm : Shown m m') :
    Mirrors (log ++ [m]) (before ++ [m']) where
  attempts := by
    rw [wire, List.filterMap_append, attempts_append, attempts_append, h.attempts]
    cases hm <;> rfl
  close := by
    rw [List.mem_append, List.mem_append, h.close]
    cases hm <;> simp

theorem Mirrors.append (h : Mirrors log before) (htold : List.Forall₂ Shown more told) :
    Mirrors (log ++ more) (before ++ told) := by
  induction htold generalizing log before with
  | nil => rwa [List.append_nil, List.append_nil]
  | @cons m m' more told hm _ ih =>
      have hmore := ih (h.step hm)
      rwa [List.append_assoc, List.append_assoc] at hmore

/-! ### What is known of the callers -/

/-- The log knows a caller as the shutdown or as the call that put it in line. -/
inductive Caller.Known (log : ToolboxLog) (caller : Caller) : Prop where
  | close (hjob : caller.job = .close) (hevent : .event (.shutdown caller.ticket) ∈ log)
  | call (hjob : caller.job = .call) {name : String} {arguments : Json} {request : Request}
      (hevent : .event (.invoke caller.ticket name arguments) ∈ log) (harm : .effect (.arm caller.ticket request) ∈ log)
      (hcalls : Calls request name arguments) (hframe : caller.frame = request.toJson.sorted)

theorem Caller.Known.mono {log more : ToolboxLog} {caller : Caller} (h : caller.Known log) (hsub : log ⊆ more) :
    caller.Known more := by
  cases h with
  | close hjob hevent => exact .close hjob (hsub hevent)
  | call hjob hevent harm hcalls hframe => exact .call hjob (hsub hevent) (hsub harm) hcalls hframe

/-- What is done for a caller is shown as done for its call or its shutdown. -/
theorem Caller.Granted.served {caller : Caller} {next : Option Mark} {next' : Option ToolboxMark}
    (h : caller.Granted (attempts log) next) (hknown : caller.Known before) (hmirrors : Mirrors log before)
    (hnext : Option.Rel Shown next next') : Served before caller.ticket next' := by
  rw [hmirrors.attempts] at h
  cases hknown with
  | close hjob hevent =>
      cases h with
      | close =>
          obtain ⟨hm⟩ := hnext
          cases hm
          exact .close hevent
      | send hother => exact absurd hjob hother
      | refuse hother => exact absurd hjob hother
  | call hjob hevent harm hcalls hframe =>
      cases h with
      | close hother => exact absurd (hjob.symm.trans hother) nofun
      | send _ hall =>
          obtain ⟨hm⟩ := hnext
          cases hm
          rw [hframe]
          exact .send hevent harm hcalls hall
      | refuse _ hall =>
          obtain ⟨hm⟩ := hnext
          cases hm
          exact .refuse hevent hall

theorem HandoverRule.shown {m : Mark} {m' : ToolboxMark} (h : HandoverRule line log m more) (hm : Shown m m')
    (htold : List.Forall₂ Shown more told) (hmirrors : Mirrors log before)
    (hknown : ∀ caller ∈ line, caller.Known before) : ServiceRule before m' told := by
  cases hm with
  | hold t =>
      obtain ⟨caller, hmem, rfl, hgranted⟩ := h
      refine hgranted.served (hknown caller hmem) hmirrors ?_
      cases htold with
      | nil => exact .none
      | cons hm _ => exact .some hm
  | send frame => exact fun hclosed => h (hmirrors.close.mpr hclosed)
  | close => exact fun hclosed => h.1 (hmirrors.close.mpr hclosed)
  | _ => trivial

/-- Handing the session on, as the log of the toolbox shows it. -/
theorem Throughout.shown (h : Throughout (HandoverRule line) log more) (htold : List.Forall₂ Shown more told)
    (hmirrors : Mirrors log before) (hknown : ∀ caller ∈ line, caller.Known before) :
    Throughout ServiceRule before told := by
  induction htold generalizing log before with
  | nil => trivial
  | cons hm htold ih =>
      refine ⟨h.1.shown hm htold hmirrors hknown, ih h.2 (hmirrors.step hm) fun caller hmem => ?_⟩
      exact (hknown caller hmem).mono (List.subset_append_left _ _)

/-! ### Steps -/

/-- A client in the service of a toolbox with a log. -/
structure Serves (c : Client) (closed : Bool) (log : ToolboxLog) : Prop where
  orderly : Orderly c.line
  standing : Standing c.activity c.line c.midFrame (attempts (wire log))
  ending : .effect .close ∈ log → c.Over
  known : ∀ caller ∈ c.line, caller.Known log
  /-- Nobody closes the transport but the shutdown of the toolbox. -/
  opened : closed = false → .effect .close ∉ log ∧ ∀ caller ∈ c.line, caller.job = .call

namespace Serves

variable {c c' : Client} {closed : Bool}

/-- Marks that tell nothing of the stream change nothing. -/
theorem quiet (h : Serves c closed before) (hquiet : wire told = []) : Serves c closed (before ++ told) := by
  have hwire : wire (before ++ told) = wire before := by
    rw [wire, List.filterMap_append]
    exact (congrArg _ hquiet).trans (List.append_nil _)
  have hclose : .effect .close ∈ before ++ told ↔ .effect .close ∈ before := by
    rw [← (mirrors_wire _).close, hwire, (mirrors_wire _).close]
  exact
    { orderly := h.orderly
      standing := hwire ▸ h.standing
      ending := fun hclosed => h.ending (hclose.mp hclosed)
      known := fun caller hmem => (h.known caller hmem).mono (List.subset_append_left _ _)
      opened := fun hopen => ⟨fun hclosed => (h.opened hopen).1 (hclose.mp hclosed), (h.opened hopen).2⟩ }

/-- A caller stands in line behind calls. -/
theorem join {caller : Caller} (h : Serves c false before) (hknown : caller.Known before)
    (hline : c'.line = c.line ++ [caller]) (hactivity : c'.activity = c.activity)
    (hmid : c'.midFrame = c.midFrame) (hopen : closed = false → caller.job = .call) : Serves c' closed before := by
  obtain ⟨hunclosed, hcalls⟩ := h.opened rfl
  have hjob : caller.job = .call ∨ caller.job = .close := by
    cases hknown with
    | close hjob => exact .inr hjob
    | call hjob => exact .inl hjob
  refine ⟨⟨?_, ?_⟩, ?_, fun hclosed => absurd hclosed hunclosed, ?_, fun hopened => ⟨hunclosed, ?_⟩⟩
  · rw [hline]
    exact List.forall_mem_append.mpr ⟨h.orderly.jobs, by simpa using hjob⟩
  · rw [hline]
    exact List.pairwise_append.mpr
      ⟨h.orderly.last, List.pairwise_singleton _ _, fun first hmem _ _ => hcalls first hmem⟩
  · rw [hline, hactivity, hmid]
    exact h.standing.append _
  · rw [hline]
    exact List.forall_mem_append.mpr ⟨h.known, by simpa using hknown⟩
  · rw [hline]
    exact List.forall_mem_append.mpr ⟨hcalls, by simpa using hopen hopened⟩

/-- Whatever the client does while nobody turns up, it serves the toolbox. -/
theorem moves (h : Serves c closed before) (hmoves : Moves c more c') (hquiet : Unasked more)
    (htold : List.Forall₂ Shown more told) :
    Serves c' closed (before ++ told) ∧ Throughout ServiceRule before told := by
  have hmirrors := mirrors_wire before
  have hhanded := hmoves.handedOn hquiet h.orderly h.standing fun hclosed => h.ending (hmirrors.close.mp hclosed)
  have hmore := hmirrors.append htold
  refine ⟨⟨h.orderly.sublist hhanded.sublist, ?_, ?_, ?_, ?_⟩, hhanded.rule.shown htold hmirrors h.known⟩
  · rw [← hmore.attempts]
    exact hhanded.standing
  · exact fun hclosed => hhanded.ending (hmore.close.mpr hclosed)
  · exact fun caller hmem => (h.known caller (hhanded.sublist.subset hmem)).mono (List.subset_append_left _ _)
  · intro hopen
    obtain ⟨hunclosed, hcalls⟩ := h.opened hopen
    refine ⟨fun hclosed => ?_, fun caller hmem => hcalls caller (hhanded.sublist.subset hmem)⟩
    obtain hbefore | hlast := List.mem_append.mp (hmore.close.mpr hclosed)
    · exact hunclosed (hmirrors.close.mp hbefore)
    · obtain ⟨first, last, hsplit⟩ := List.append_of_mem hlast
      obtain ⟨_, closer, hmem, hjob⟩ := hhanded.rule.at hsplit
      exact absurd ((hcalls closer hmem).symm.trans hjob) nofun

/-- What follows when the session is free. -/
theorem settle (h : Serves c closed before) (htold : List.Forall₂ Shown (marks c.settle.2) told) :
    Serves c.settle.1 closed (before ++ told) ∧ Throughout ServiceRule before told := by
  have hmoves := (Moves.none : Moves c [] c).settle
  refine h.moves hmoves (fun t wish hmem => ?_) htold
  simp at hmem

end Serves

namespace Toolbox

variable (b : Toolbox)

theorem session_same (e : Event) : (b.session e).1.client = (b.client.step e).1 ∧ (b.session e).1.closed = b.closed ∧
    (b.session e).1.schemas = b.schemas :=
  { b with client := (b.client.step e).1 }.relayAll_same (b.client.step e).2

theorem session_shown (e : Event) : List.Forall₂ Shown (marks (b.client.step e).2) ((b.session e).2.map .effect) :=
  { b with client := (b.client.step e).1 }.relayAll_shown (b.client.step e).2

variable {b}

/-- The request of a call that is made now. -/
def nextRequest (b : Toolbox) (name : String) (arguments : Json) : Request :=
  { id := .number (Int64.ofNat b.client.nextId), method := Method.toolsCall,
    params := some (.obj [("arguments", arguments), ("name", name)]) }

variable (b) in
theorem nextRequest_calls (name : String) (arguments : Json) : Calls (b.nextRequest name arguments) name arguments :=
  ⟨rfl, rfl⟩

/-- A call that is not refused goes to the end of the line, with its request. -/
theorem session_call (h : Serves b.client b.closed before) (hopen : b.closed = false) (t : Nat) (name : String)
    (arguments : Json) :
    ∃ told, (b.session (.ask t (.callTool name arguments))).2.map ToolboxMark.effect =
        .effect (.arm t (b.nextRequest name arguments)) :: told ∧
      Serves (b.session (.ask t (.callTool name arguments))).1.client b.closed
        (before ++ .event (.invoke t name arguments) :: .effect (.arm t (b.nextRequest name arguments)) :: told) ∧
      Throughout ServiceRule before
        (.event (.invoke t name arguments) :: .effect (.arm t (b.nextRequest name arguments)) :: told) := by
  rw [hopen] at h ⊢
  let request : Request := b.nextRequest name arguments
  let joined : Client := (b.client.enqueue t .call Method.toolsCall request.params).1
  have hstep : b.client.step (.ask t (.callTool name arguments)) =
      (joined.settle.1, .arm t request :: joined.settle.2) := rfl
  have hshown : List.Forall₂ Shown (.effect (.arm t request) :: marks joined.settle.2)
      ((b.session (.ask t (.callTool name arguments))).2.map .effect) :=
    b.session_shown (.ask t (.callTool name arguments))
  obtain ⟨_, told, ⟨⟩, htold, heffects⟩ := List.forall₂_cons_left_iff.mp hshown
  have hasked : Serves b.client false (before ++ [.event (.invoke t name arguments), .effect (.arm t request)]) :=
    h.quiet rfl
  have hjoined : Serves joined false (before ++ [.event (.invoke t name arguments), .effect (.arm t request)]) :=
    hasked.join (.call rfl (List.mem_append_right _ List.mem_cons_self)
      (List.mem_append_right _ (List.mem_cons_of_mem _ List.mem_cons_self)) (b.nextRequest_calls name arguments) rfl)
      rfl rfl rfl fun _ => rfl
  obtain ⟨hserves, hrule⟩ := hjoined.settle htold
  rw [List.append_assoc] at hserves
  refine ⟨told, heffects, ?_, trivial, trivial, ?_⟩
  · rw [(b.session_same _).1, hstep]
    exact hserves
  · rwa [List.append_assoc]

/-- A shutdown goes to the end of the line. -/
theorem session_close (h : Serves b.client false before) (t : Nat) :
    Serves (b.session (.ask t .close)).1.client true
        (before ++ .event (.shutdown t) :: (b.session (.ask t .close)).2.map .effect) ∧
      Throughout ServiceRule before (.event (.shutdown t) :: (b.session (.ask t .close)).2.map .effect) := by
  have hstep : b.client.step (.ask t .close) = (b.client.enqueueClose t).settle := rfl
  have hshown := b.session_shown (.ask t .close)
  rw [hstep] at hshown
  have hasked : Serves b.client false (before ++ [.event (.shutdown t)]) := h.quiet rfl
  have hjoined : Serves (b.client.enqueueClose t) true (before ++ [.event (.shutdown t)]) :=
    hasked.join (.close rfl (by simp)) rfl rfl rfl nofun
  obtain ⟨hserves, hrule⟩ := hjoined.settle hshown
  rw [List.append_assoc] at hserves
  refine ⟨?_, trivial, hrule⟩
  rw [(b.session_same _).1, hstep]
  exact hserves

/-- Everything but somebody turning up is passed on as it is. -/
theorem session_passes {closed : Bool} {e : Event} (h : Serves b.client closed before)
    (hleft : ∀ t wish, e ≠ .ask t wish) :
    Serves (b.session e).1.client closed (before ++ .event (.session e) :: (b.session e).2.map .effect) ∧
      Throughout ServiceRule before (.event (.session e) :: (b.session e).2.map .effect) := by
  have hquiet : Unasked (.event e :: marks (b.client.step e).2) := by
    intro t wish hmem
    have hevent : Event.ask t wish = e := by simpa using hmem
    exact hleft t wish hevent.symm
  rw [(b.session_same e).1]
  exact h.moves (Client.step_moves b.client e) hquiet (.cons (.event e) (b.session_shown e))

theorem step_refused {name : String} {e : ToolError} (h : b.refusal? name = some e) (t : Nat) (arguments : Json) :
    b.step (.invoke t name arguments) = (b, [.answer t (.outcome (.error e))]) := by
  simp only [step, h]

theorem step_taken {name : String} (h : b.refusal? name = none) (t : Nat) (arguments : Json) :
    b.step (.invoke t name arguments) =
      { b with calling := b.calling ++ [t] }.session (.ask t (.callTool name arguments)) := by
  simp only [step, h]

/-- The caller that a call becomes. -/
def callerOf (b : Toolbox) (t : Nat) (name : String) (arguments : Json) : Caller :=
  ⟨t, .call, some (b.nextRequest name arguments).id, Method.toolsCall, (b.nextRequest name arguments).toJson.sorted⟩

/-- The toolbox with one call under way. -/
def serving (b : Toolbox) (t : Nat) (name : String) (arguments : Json) (activity : Activity) (midFrame : Bool) :
    Toolbox :=
  { b with
    client := { b.client with nextId := b.client.nextId + 1, line := [b.callerOf t name arguments], activity, midFrame }
    calling := b.calling ++ [t] }

/-- A call that finds nobody in line and the last frame out has the session right away. -/
theorem step_alone {name : String} (hname : b.refusal? name = none) (hline : b.client.line = [])
    (hidle : b.client.activity = .idle) (hmid : b.client.midFrame = false) (t : Nat) (arguments : Json) :
    b.step (.invoke t name arguments) = (b.serving t name arguments .writing true,
      [.arm t (b.nextRequest name arguments), .hold t, .send (b.nextRequest name arguments).toJson.sorted]) := by
  rw [step_taken hname]
  obtain ⟨⟨limit, nextId, midFrame, line, activity, capabilities⟩, serverName, schemas, closed, broken, calling⟩ := b
  obtain ⟨rfl, rfl, rfl⟩ : line = [] ∧ activity = .idle ∧ midFrame = false := ⟨hline, hidle, hmid⟩
  rfl

theorem refusal?_eq_none {name : String} (h : b.refusal? name = none) : b.closed = false := by
  unfold refusal? at h
  cases hclosed : b.closed with
  | false => rfl
  | true => simp [hclosed] at h

/-- Whatever happens to a toolbox, its client serves it. -/
theorem step_serves {e : ToolboxEvent} (h : Serves b.client b.closed before)
    (hleft : ∀ t wish, e ≠ .session (.ask t wish)) :
    Serves (b.step e).1.client (b.step e).1.closed (before ++ b.stepLog e) ∧
      Throughout ServiceRule before (b.stepLog e) := by
  cases e with
  | invoke t name arguments =>
      cases hrefusal : b.refusal? name with
      | some e =>
          rw [stepLog, step_refused hrefusal]
          exact ⟨h.quiet rfl, trivial, trivial, trivial⟩
      | none =>
          have hopen := refusal?_eq_none hrefusal
          obtain ⟨told, heffects, hserves, hrule⟩ :=
            session_call (b := { b with calling := b.calling ++ [t] }) h hopen t name arguments
          rw [stepLog, step_taken hrefusal, heffects, (session_same _ _).2.1]
          exact ⟨hserves, hrule⟩
  | shutdown t =>
      cases hclosed : b.closed with
      | true =>
          simp only [stepLog, step, hclosed, if_true]
          exact ⟨hclosed ▸ h.quiet rfl, trivial, trivial, trivial⟩
      | false =>
          rw [hclosed] at h
          simp only [stepLog, step, hclosed, Bool.false_eq_true, if_false]
          rw [(session_same _ _).2.1]
          exact session_close (b := { b with closed := true }) h t
  | session e =>
      have hleft : ∀ t wish, e ≠ .ask t wish := fun t wish heq => hleft t wish (congrArg _ heq)
      cases e with
      | withdrawn tickets =>
          simp only [stepLog, step]
          rw [(session_same _ _).2.1]
          exact session_passes (b := { b with calling := b.calling.filter (fun t => !tickets.contains t) }) h hleft
      | _ =>
          simp only [stepLog, step]
          rw [(session_same _ _).2.1]
          exact session_passes h hleft

/-! ### Runs -/

theorem log_served {es : List ToolboxEvent} (h : Serves b.client b.closed before)
    (hleft : ∀ t wish, ToolboxEvent.session (.ask t wish) ∉ es) : Throughout ServiceRule before (b.log es) := by
  induction es generalizing b before with
  | nil => trivial
  | cons e es ih =>
      have hfirst : ∀ t wish, e ≠ .session (.ask t wish) := fun t wish heq => hleft t wish (heq ▸ List.mem_cons_self)
      obtain ⟨hserves, hrule⟩ := b.step_serves h hfirst
      exact hrule.append ServiceRule.append (ih hserves fun t wish hmem => hleft t wish (List.mem_cons_of_mem _ hmem))

theorem after_serves {es : List ToolboxEvent} (h : Serves b.client b.closed before)
    (hleft : ∀ t wish, ToolboxEvent.session (.ask t wish) ∉ es) :
    Serves (b.after es).client (b.after es).closed (before ++ b.log es) := by
  induction es generalizing b before with
  | nil => rwa [log, List.append_nil]
  | cons e es ih =>
      have hfirst : ∀ t wish, e ≠ .session (.ask t wish) := fun t wish heq => hleft t wish (heq ▸ List.mem_cons_self)
      rw [log, ← List.append_assoc]
      exact ih (b.step_serves h hfirst).1 fun t wish hmem => hleft t wish (List.mem_cons_of_mem _ hmem)

theorem mem_of_mem_log {e : ToolboxEvent} {es : List ToolboxEvent} (h : .event e ∈ b.log es) : e ∈ es := by
  induction es generalizing b with
  | nil => cases h
  | cons e' es ih =>
      obtain hfirst | hrest := List.mem_append.mp h
      · obtain rfl : e = e' := by simpa using hfirst
        exact List.mem_cons_self
      · exact List.mem_cons_of_mem _ (ih hrest)

end Toolbox

end Colloquy.Session
