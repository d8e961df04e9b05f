import Mathlib.Data.List.Pairwise
import Colloquy.Proofs.Session.Connecting
import Colloquy.Proofs.Session.Service

/-! The life of a connected session, from the first call to the end of its use. It ends for all calls that come
later with a shutdown or with a call that fails for the protocol (`unusable_after`), and with nothing else;
until then an announced call is sent as soon as it gets the session. The transport is closed once, and nothing
is sent any more then (`lifecycle_kept`). -/

namespace Colloquy.Session

open Rpc

/-- A call came to an error of the protocol, or a shutdown was called. -/
def ToolboxMark.Ends : ToolboxMark → Prop
  | .event (.shutdown _) => True
  | .effect (.answer _ (.outcome (.error (.protocol _)))) => True
  | _ => False

/-- The session has come to its end. -/
def Ended (log : ToolboxLog) : Prop := ∃ m ∈ log, m.Ends

theorem ended_append {log more : ToolboxLog} : Ended (log ++ more) ↔ Ended log ∨ Ended more := by
  simp [Ended, or_and_right, exists_or]

namespace Toolbox

variable {b : Toolbox}

def Unusable (b : Toolbox) : Prop := b.closed = true ∨ b.broken = true

def Announces (b : Toolbox) (name : String) : Prop := ∃ schema ∈ b.schemas, schema.name = name

/-! ### Calls that are refused -/

theorem refusal?_of_unusable (name : String) (h : b.Unusable) :
    ∃ reason, b.refusal? name = some (.protocol reason) := by
  unfold refusal?
  split
  · exact ⟨_, rfl⟩
  · next hclosed =>
      rw [if_pos (h.resolve_left hclosed)]
      exact ⟨_, rfl⟩

theorem refusal?_of_usable (name : String) (h : ¬b.Unusable) :
    b.Announces name ∧ b.refusal? name = none ∨ ¬b.Announces name ∧ b.refusal? name = some (.notFound name) := by
  have hopen : ¬b.closed = true ∧ ¬b.broken = true := not_or.mp h
  have hany : b.schemas.any (·.name == name) = true ↔ b.Announces name := by
    simp [Announces]
  unfold refusal?
  rw [if_neg hopen.1, if_neg hopen.2]
  split
  · exact .inl ⟨hany.mp ‹_›, rfl⟩
  · exact .inr ⟨mt hany.mpr ‹_›, rfl⟩

/-! ### The end of a session -/

theorem relay_broken (b : Toolbox) (f : Effect AnswerResult) :
    (b.relay f).1.broken = true ↔ b.broken = true ∨ (ToolboxMark.effect (b.relay f).2).Ends := by
  have hbreaks (t : Nat) (o : ToolOutcome) : breaks o = true ↔ (ToolboxMark.effect (.answer t (.outcome o))).Ends := by
    cases o with
    | ok v => simp [breaks, ToolboxMark.Ends]
    | error e => cases e <;> simp [breaks, ToolError.isFatal, ToolboxMark.Ends]
  unfold relay
  split
  case h_8 =>
    split
    · rw [Bool.or_eq_true]
      exact or_congr_right (hbreaks _ _)
    · simp [ToolboxMark.Ends]
  all_goals simp [ToolboxMark.Ends]

theorem relayAll_broken (b : Toolbox) (effects : List (Effect AnswerResult)) :
    (b.relayAll effects).1.broken = true ↔
      b.broken = true ∨ Ended ((b.relayAll effects).2.map .effect) := by
  induction effects generalizing b with
  | nil => simp [relayAll, Ended]
  | cons f effects ih =>
      rw [relayAll, ih, relay_broken, or_assoc]
      simp [Ended]

/-- Passing an event on ends a session only by a failure of the protocol. -/
theorem session_unusable (b : Toolbox) (e : Event) :
    (b.session e).1.Unusable ↔ b.Unusable ∨ Ended ((b.session e).2.map .effect) := by
  have hbroken := relayAll_broken { b with client := (b.client.step e).1 } (b.client.step e).2
  have hclosed := (b.session_same e).2.1
  unfold Unusable
  rw [hclosed, or_assoc]
  exact or_congr_right hbroken

variable (b) in
theorem step_unusable (e : ToolboxEvent) : (b.step e).1.Unusable ↔ b.Unusable ∨ Ended (b.stepLog e) := by
  have hlog {told : ToolboxLog} (hquiet : ¬(ToolboxMark.event e).Ends) : Ended (.event e :: told) ↔ Ended told := by
    simp [Ended, hquiet]
  cases e with
  | invoke t name arguments =>
      rw [stepLog, hlog not_false]
      cases hrefusal : b.refusal? name with
      | some e =>
          rw [step_refused hrefusal]
          by_cases hunusable : b.Unusable
          · exact iff_of_true hunusable (.inl hunusable)
          · obtain ⟨_, hnone⟩ | ⟨_, hnotFound⟩ := refusal?_of_usable name hunusable
            · cases hrefusal.symm.trans hnone
            · cases hrefusal.symm.trans hnotFound
              exact iff_of_false hunusable (by simp [hunusable, Ended, ToolboxMark.Ends])
      | none =>
          rw [step_taken hrefusal]
          exact session_unusable _ _
  | shutdown t =>
      have hended : Ended (b.stepLog (.shutdown t)) := ⟨_, List.mem_cons_self, trivial⟩
      refine iff_of_true (.inl ?_) (.inr hended)
      cases hclosed : b.closed with
      | true => simp only [step, hclosed, if_true]
      | false =>
          simp only [step, hclosed, Bool.false_eq_true, if_false]
          exact (session_same _ _).2.1
  | session e =>
      rw [stepLog, hlog not_false]
      cases e <;> exact session_unusable _ _

/-- A session can no longer be used exactly when it has come to its end. -/
theorem unusable_after (es : List ToolboxEvent) : (b.after es).Unusable ↔ b.Unusable ∨ Ended (b.log es) := by
  induction es generalizing b with
  | nil => simp [after, log, Ended]
  | cons e es ih =>
      rw [log, ended_append, ← or_assoc, ← step_unusable]
      exact ih

variable (b) in
theorem step_schemas (e : ToolboxEvent) : (b.step e).1.schemas = b.schemas := by
  unfold step
  split
  · split
    · rfl
    · exact (session_same _ _).2.2
  · split
    · rfl
    · exact (session_same _ _).2.2
  · exact (session_same _ _).2.2
  · exact (session_same _ _).2.2

theorem after_announces {name : String} (es : List ToolboxEvent) : (b.after es).Announces name ↔ b.Announces name := by
  induction es generalizing b with
  | nil => rfl
  | cons e es ih =>
      have hfirst : (b.step e).1.Announces name ↔ b.Announces name := by
        unfold Announces
        rw [step_schemas]
      exact ih.trans hfirst

end Toolbox

def ToolboxEvent.ticket? : ToolboxEvent → Option Nat
  | .invoke ticket _ _ | .shutdown ticket => some ticket
  | .session _ => none

/-- Every call and every shutdown has a ticket of its own, and nobody else uses the session. -/
structure ProperUse (uses : List ToolboxEvent) : Prop where
  tickets : uses.Pairwise fun e e' => ∀ t, e.ticket? = some t → e'.ticket? ≠ some t
  left : ∀ t wish, .session (.ask t wish) ∉ uses

/-- A client that nobody waits for is free, and no frame is out in part if none was broken off. -/
theorem Serves.free {c : Client} {closed : Bool} {log : ToolboxLog} (h : Serves c closed log) (hline : c.line = [])
    (hwhole : ¬Broken (attempts (wire log))) : c.activity = .idle ∧ c.midFrame = false := by
  have hstanding := h.standing
  rw [hline] at hstanding
  have hidle := hstanding.idle_of_nobody
  have hbroken := (hstanding.resting (hidle ▸ not_false)).broken_iff
  exact ⟨hidle, eq_false_of_ne_true (mt hbroken.mp hwhole)⟩

/-! ### Uses of a connected toolbox -/

/-- What becomes of the calls of a toolbox that is used in some way. -/
structure Toolbox.KeepsLifecycle (b : Toolbox) (uses : List ToolboxEvent) : Prop where
  /-- A call after the end is refused at once, and that is all that is done. -/
  ended : ∀ earlier t name arguments later, uses = earlier ++ .invoke t name arguments :: later →
    Ended (b.log earlier) → ∃ reason, (b.after earlier).step (.invoke t name arguments) =
      (b.after earlier, [.answer t (.outcome (.error (.protocol reason)))])
  /-- So is a call of a tool that was not announced. -/
  unannounced : ∀ earlier t name arguments later, uses = earlier ++ .invoke t name arguments :: later →
    ¬b.Announces name → ∃ e, (b.after earlier).step (.invoke t name arguments) =
      (b.after earlier, [.answer t (.outcome (.error e))]) ∧ (¬Ended (b.log earlier) → e = .notFound name)
  /-- Any other call goes for the session with a request. -/
  taken : ∀ earlier t name arguments later, uses = earlier ++ .invoke t name arguments :: later →
    ¬Ended (b.log earlier) → b.Announces name → ∃ request rest, Calls request name arguments ∧
      ((b.after earlier).step (.invoke t name arguments)).2 = .arm t request :: rest
  /-- As soon as it has got the session its frame is sent, if no frame before it went out in part. -/
  sent : ∀ t name arguments, .invoke t name arguments ∈ uses → ∀ before after,
    b.log uses = before ++ .effect (.hold t) :: after → ¬Broken (attempts (wire before)) →
      ∃ request, Calls request name arguments ∧ .effect (.arm t request) ∈ before ∧
        after.head? = some (.effect (.send request.toJson.sorted))
  /-- If nobody else is in line it gets the session at once. -/
  alone : ∀ earlier t name arguments later, uses = earlier ++ .invoke t name arguments :: later →
    ¬Ended (b.log earlier) → b.Announces name → (b.after earlier).client.line = [] →
    ¬Broken (attempts (wire (b.log earlier))) → ∃ request, Calls request name arguments ∧
      ((b.after earlier).step (.invoke t name arguments)).2 = [.arm t request, .hold t, .send request.toJson.sorted]
  /-- The transport is closed once, and is not used any more then. -/
  closed : ∀ before after, b.log uses = before ++ .effect .close :: after →
    .effect .close ∉ before ∧ .effect .close ∉ after ∧ ∀ frame, .effect (.send frame) ∉ after

theorem Toolbox.Fresh.serves {b : Toolbox} (h : b.Fresh) : Serves b.client b.closed [] where
  orderly := h.line ▸ ⟨nofun, .nil⟩
  standing := h.line ▸ h.activity ▸ h.midFrame ▸ .idle (.whole nofun)
  ending := nofun
  known := h.line ▸ nofun
  opened _ := ⟨nofun, h.line ▸ nofun⟩

theorem Toolbox.Fresh.not_unusable {b : Toolbox} (h : b.Fresh) : ¬b.Unusable := by
  unfold Toolbox.Unusable
  rw [h.closed, h.broken]
  simp

theorem ProperUse.eq_of_ticket {uses : List ToolboxEvent} (h : ProperUse uses) {e e' : ToolboxEvent} {t : Nat}
    (he : e ∈ uses) (he' : e' ∈ uses) (ht : e.ticket? = some t) (ht' : e'.ticket? = some t) : e = e' := by
  have hsymm : Std.Symm fun e e' : ToolboxEvent => ∀ t, e.ticket? = some t → e'.ticket? ≠ some t :=
    ⟨fun e e' h t ht' ht => h t ht ht'⟩
  by_contra hne
  exact h.tickets.forall he he' hne t ht ht'

section

variable {b : Toolbox} {uses : List ToolboxEvent} (hfresh : b.Fresh)

include hfresh

theorem Toolbox.Fresh.unusable_iff (earlier : List ToolboxEvent) :
    (b.after earlier).Unusable ↔ Ended (b.log earlier) :=
  (Toolbox.unusable_after earlier).trans (or_iff_right hfresh.not_unusable)

/-- A call before the end is refused only if its tool was not announced. -/
theorem Toolbox.Fresh.refusal? (earlier : List ToolboxEvent) (name : String) (hgoing : ¬Ended (b.log earlier)) :
    b.Announces name ∧ (b.after earlier).refusal? name = none ∨
      ¬b.Announces name ∧ (b.after earlier).refusal? name = some (.notFound name) := by
  rw [← Toolbox.after_announces earlier]
  exact Toolbox.refusal?_of_usable name (mt (hfresh.unusable_iff earlier).mp hgoing)

theorem Toolbox.Fresh.refusal?_announced (earlier : List ToolboxEvent) {name : String}
    (hgoing : ¬Ended (b.log earlier)) (hname : b.Announces name) : (b.after earlier).refusal? name = none := by
  obtain ⟨_, hnone⟩ | ⟨hother, _⟩ := hfresh.refusal? earlier name hgoing
  · exact hnone
  · exact absurd hname hother

theorem call_sent {t : Nat} {name : String} {arguments : Json} (huses : ProperUse uses)
    (hcall : .invoke t name arguments ∈ uses) {before after : ToolboxLog}
    (hlog : b.log uses = before ++ .effect (.hold t) :: after) (hwhole : ¬Broken (attempts (wire before))) :
    ∃ request, Calls request name arguments ∧ .effect (.arm t request) ∈ before ∧
      after.head? = some (.effect (.send request.toJson.sorted)) := by
  have hserved : Served before t after.head? := (Toolbox.log_served hfresh.serves huses.left).at hlog
  have hmem {e : ToolboxEvent} (he : .event e ∈ before) : e ∈ uses := by
    refine Toolbox.mem_of_mem_log (b := b) ?_
    rw [hlog]
    exact List.mem_append_left _ he
  generalize after.head? = next at hserved
  cases hserved with
  | close hevent => cases huses.eq_of_ticket hcall (hmem hevent) rfl rfl
  | send hevent harm hcalls hall =>
      cases huses.eq_of_ticket hcall (hmem hevent) rfl rfl
      exact ⟨_, hcalls, harm, rfl⟩
  | refuse hevent hall => exact absurd hall hwhole

theorem closed_once (huses : ProperUse uses) {before after : ToolboxLog}
    (hlog : b.log uses = before ++ .effect .close :: after) :
    .effect .close ∉ before ∧ .effect .close ∉ after ∧ ∀ frame, .effect (.send frame) ∉ after := by
  have hrule := Toolbox.log_served hfresh.serves huses.left
  have hlater {m : ToolboxMark} (hm : m ∈ after) :
      ∃ first last, .effect .close ∈ first ∧ ServiceRule first m last := by
    obtain ⟨first, last, rfl⟩ := List.append_of_mem hm
    rw [← List.cons_append, ← List.append_assoc] at hlog
    exact ⟨_, _, by simp, hrule.at hlog⟩
  refine ⟨hrule.at hlog, fun hclose => ?_, fun frame hsend => ?_⟩
  · obtain ⟨first, last, hclosed, hunclosed⟩ := hlater hclose
    exact hunclosed hclosed
  · obtain ⟨first, last, hclosed, hunclosed⟩ := hlater hsend
    exact hunclosed hclosed

end

/-- Whatever a connected session goes through while it is used: once a call came to an error of the protocol or
the session was shut down, all later calls are refused with such an error and nothing is sent for them. Nothing
else does that: until then, a call of an announced tool is sent as soon as it gets the session, unless a frame
before it went out in part. A tool that was not announced never causes a frame, the transport is closed at most
once, and no frame is sent after that. -/
theorem lifecycle_kept {limit : Nat} {events : List Event} {b : Toolbox} {uses : List ToolboxEvent}
    (hconnected : Connects limit events b) (huses : ProperUse uses) : b.KeepsLifecycle uses := by
  have hfresh := hconnected.fresh
  constructor
  case ended =>
    intro earlier t name arguments later _ hended
    obtain ⟨reason, hrefusal⟩ := Toolbox.refusal?_of_unusable name ((hfresh.unusable_iff earlier).mpr hended)
    exact ⟨reason, Toolbox.step_refused hrefusal t arguments⟩
  case unannounced =>
    intro earlier t name arguments later _ hname
    by_cases hended : Ended (b.log earlier)
    · obtain ⟨reason, hrefusal⟩ := Toolbox.refusal?_of_unusable name ((hfresh.unusable_iff earlier).mpr hended)
      exact ⟨_, Toolbox.step_refused hrefusal t arguments, absurd hended⟩
    · obtain ⟨hother, _⟩ | ⟨_, hrefusal⟩ := hfresh.refusal? earlier name hended
      · exact absurd hother hname
      · exact ⟨_, Toolbox.step_refused hrefusal t arguments, fun _ => rfl⟩
  case taken =>
    intro earlier t name arguments later _ hgoing hname
    rw [Toolbox.step_taken (hfresh.refusal?_announced earlier hgoing hname)]
    exact ⟨_, _, (b.after earlier).nextRequest_calls name arguments, rfl⟩
  case sent =>
    intro t name arguments hcall before after hlog hwhole
    exact call_sent hfresh huses hcall hlog hwhole
  case alone =>
    intro earlier t name arguments later huse hgoing hname hline hwhole
    have hearlier : ∀ t wish, ToolboxEvent.session (.ask t wish) ∉ earlier :=
      fun t wish hmem => huses.left t wish (huse ▸ List.mem_append_left _ hmem)
    obtain ⟨hidle, hmid⟩ := (Toolbox.after_serves hfresh.serves hearlier).free hline hwhole
    rw [Toolbox.step_alone (hfresh.refusal?_announced earlier hgoing hname) hline hidle hmid]
    exact ⟨_, (b.after earlier).nextRequest_calls name arguments, rfl⟩
  case closed =>
    intro before after hlog
    exact closed_once hfresh huses hlog

/-- What a server that has one tool says until the tools are known. -/
def introduction : List Event :=
  [.written,
    .received (Response.success (.number 1)
      (.obj [("protocolVersion", "1"), ("serverInfo", .obj [("name", "s")])])).toJson,
    .written, .written,
    .received (Response.success (.number 2) (.obj [("tools", .arr [.obj [("name", "t")]])])).toJson]

def introduced : Toolbox where
  client := { limit := 100, nextId := 3, capabilities := some {} }
  serverName := "s"
  schemas := [⟨"t", "", emptyObjectSchema⟩]

/-- One call is answered too late and the next one waits for it; then the session is shut down. -/
def lateCall : List ToolboxEvent :=
  [.invoke 0 "t" .null, .session .written, .invoke 1 "t" .null, .session (.expired 0), .session .written,
    .shutdown 2, .invoke 3 "t" .null, .session (.expired 1), .session .closed]

theorem lifecycle_kept_sample :
    Connects 100 introduction introduced ∧ ProperUse lateCall ∧ introduced.KeepsLifecycle lateCall := by
  have hconnected : Connects 100 introduction introduced := ⟨by simp [introduction], rfl⟩
  have huses : ProperUse lateCall := ⟨by simp [lateCall, ToolboxEvent.ticket?], by simp [lateCall]⟩
  exact ⟨hconnected, huses, lifecycle_kept hconnected huses⟩

/-- The frame of a call is sent as soon as it has got the session, if no frame had gone out in part when the call was
made. A toolbox does not keep to it: the call may wait while the frame of another one fails. -/
def Toolbox.SendsOnceStarted (b : Toolbox) (uses : List ToolboxEvent) : Prop :=
  ∀ earlier t name arguments later, uses = earlier ++ .invoke t name arguments :: later →
    ¬Ended (b.log earlier) → b.Announces name → ¬Broken (attempts (wire (b.log earlier))) →
      ∀ before after, b.log uses = before ++ .effect (.hold t) :: after →
        ∃ request, Calls request name arguments ∧ after.head? = some (.effect (.send request.toJson.sorted))

/-- A call fails while its frame is sent, and the next one waits for the session all the time. -/
def failedAhead : List ToolboxEvent :=
  [.invoke 0 "t" .null, .invoke 1 "t" .null, .session (.writeFailed "gone")]

theorem queued_call_unsent :
    Connects 100 introduction introduced ∧ ProperUse failedAhead ∧ ¬introduced.SendsOnceStarted failedAhead := by
  have hconnected : Connects 100 introduction introduced := ⟨by simp [introduction], rfl⟩
  have huses : ProperUse failedAhead := ⟨by simp [failedAhead, ToolboxEvent.ticket?], by simp [failedAhead]⟩
  refine ⟨hconnected, huses, fun hsends => ?_⟩
  have hfirst : introduced.log [.invoke 0 "t" .null] =
      [.event (.invoke 0 "t" .null), .effect (.arm 0 (introduced.nextRequest "t" .null)), .effect (.hold 0),
        .effect (.send (introduced.nextRequest "t" .null).toJson.sorted)] := rfl
  have hgoing : ¬Ended (introduced.log [.invoke 0 "t" .null]) := by
    rw [hfirst]
    simp [Ended, ToolboxMark.Ends]
  have hattempts : attempts (wire (introduced.log [.invoke 0 "t" .null])) =
      [⟨(introduced.nextRequest "t" .null).toJson.sorted, .pending⟩] := rfl
  have hwhole : ¬Broken (attempts (wire (introduced.log [.invoke 0 "t" .null]))) := by
    rw [hattempts]
    simp [Broken]
  -- the second call gets the session with the ninth mark, and is refused with the next one
  obtain ⟨request, -, hsent⟩ := hsends [.invoke 0 "t" .null] 1 "t" .null [.session (.writeFailed "gone")] rfl hgoing
    ⟨_, List.mem_cons_self, rfl⟩ hwhole ((introduced.log failedAhead).take 8) ((introduced.log failedAhead).drop 9) rfl
  cases hsent

end Colloquy.Session
