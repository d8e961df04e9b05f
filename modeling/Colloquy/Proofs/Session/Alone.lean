import Colloquy.Session.Connect
import Colloquy.Proofs.Session.Outcome

/-! The caller of a connection. It makes the handshake, tells the server so and goes through the pages of tools, and
nobody else is in line. What a step can come to is a few things only (`Client.step_alone`). -/

namespace Colloquy.Session

open Rpc

namespace Connection

def handshakeRequest : Request :=
  { id := .number 1, method := Method.handshake, params := some (Client.handshakeParams clientName clientVersion) }

def readyNote : Notification := { method := Method.ready }

end Connection

open Connection

/-- The caller of a connection, as it stands in line at a stage. -/
inductive Caller.At : Caller → Stage → Prop where
  | handshake {request : Request} : At (.of Connection.ticket .handshake request) .greeting
  | ready {server : ServerInfo} :
      At ⟨Connection.ticket, .ready server, none, Method.ready, readyNote.toJson.sorted⟩ .greeting
  | listing {found : List ServerTool} {request : Request} {server : ServerInfo} :
      At (.of Connection.ticket (.listing found) request) (.listing server)

namespace Caller.At

variable {first : Caller} {stage : Stage}

theorem ticket (h : first.At stage) : first.ticket = Connection.ticket := by
  cases h <;> rfl

theorem introducing (h : first.At stage) : stage = .greeting ∨ ∃ server, stage = .listing server := by
  cases h with
  | listing => exact .inr ⟨_, rfl⟩
  | _ => exact .inl rfl

theorem greeting_of_handshake (h : first.At stage) (hjob : first.job = .handshake) : stage = .greeting := by
  cases h with
  | listing => cases hjob
  | _ => rfl

theorem greeting_of_ready (h : first.At stage) {server : ServerInfo} (hjob : first.job = .ready server) :
    stage = .greeting := by
  cases h with
  | listing => cases hjob
  | _ => rfl

theorem listing_of_listing (h : first.At stage) {found : List ServerTool} (hjob : first.job = .listing found) :
    ∃ server, stage = .listing server := by
  cases h with
  | listing => exact ⟨_, rfl⟩
  | _ => cases hjob

theorem ne_ready (h : first.At stage) (hrequest : first.request ≠ none) (server : ServerInfo) :
    first.job ≠ .ready server := by
  cases h with
  | ready => exact absurd rfl hrequest
  | _ => exact nofun

end Caller.At

/-- The caller has the session and does not close the transport. No frame is out in part while it waits, and a
notification is only written. -/
structure Client.Busy (c : Client) (first : Caller) : Prop where
  stays : c.activity ≠ .closing
  whole : c.activity = .reading → c.midFrame = false
  writes : first.request = none → c.activity = .writing

theorem Client.Busy.of_writing {c : Client} {first : Caller} (h : c.activity = .writing) : c.Busy first :=
  ⟨by simp [h], by simp [h], fun _ => h⟩

/-- Nothing is sent or closed, and nobody is answered. -/
def Effect.Mute {α : Type} : Effect α → Prop
  | .send _ | .close | .answer _ _ => False
  | _ => True

namespace Client

variable {c : Client} {first : Caller} {e : Event}

structure Free (c : Client) : Prop where
  line : c.line = []
  idle : c.activity = .idle

/-- What an event comes to for the caller of a connection, who is alone in line. -/
inductive Alone (first : Caller) (e : Event) : Step → Prop where
  | waits {c : Client} {effects : List (Effect AnswerResult)} (hline : c.line = [first]) (hbusy : c.Busy first)
      (hreceives : ∀ f ∈ effects, f = .receive) : Alone first e (c, effects)
  | rejects {c : Client} {frame : Json} {r : Request} (hevent : e = .received frame)
      (hframe : classify frame = .ok (.request r)) (hrequest : first.request ≠ none) (hline : c.line = [first])
      (hbusy : c.Busy first) : Alone first e (c, [.send (rejection r.id)])
  | gone {c : Client} (hfree : c.Free) : Alone first e (c, [.abandon])
  | fails {c : Client} {told : List (Effect AnswerResult)} {failure : SessionError} (hfree : c.Free)
      (hmute : ∀ f ∈ told, f.Mute) : Alone first e (c, told ++ [.answer first.ticket (.error failure)])
  | welcomed {c : Client} {id : RequestId} {value : Json} {server : ServerInfo} (hjob : first.job = .handshake)
      (hline : c.line = [⟨first.ticket, .ready server, none, Method.ready, readyNote.toJson.sorted⟩])
      (hwriting : c.activity = .writing) :
      Alone first e
        (c, [.accept first.ticket id value, .hold first.ticket, .send readyNote.toJson.sorted])
  | confirmed {c : Client} {server : ServerInfo} (hjob : first.job = .ready server) (hfree : c.Free)
      (hwhole : c.midFrame = false) : Alone first e (c, [.answer first.ticket (.ok (.server server))])
  | turns {c : Client} {id : RequestId} {value : Json} {page : ToolsPage} {n : Nat} {cursor : String}
      {found : List ServerTool} (hjob : first.job = .listing found) (hread : ToolsPage.decode value = .ok page)
      (hmore : page.following? = some cursor)
      (hline : c.line = [.of first.ticket (.listing (found ++ page.tools)) (pageRequest n (some cursor))])
      (hwriting : c.activity = .writing) :
      Alone first e
        (c, [.accept first.ticket id value, .arm first.ticket (pageRequest n (some cursor)), .hold first.ticket,
          .send (pageRequest n (some cursor)).toJson.sorted])
  | listed {c : Client} {id : RequestId} {value : Json} {page : ToolsPage} {found : List ServerTool}
      (hjob : first.job = .listing found) (hread : ToolsPage.decode value = .ok page) (hlast : page.following? = none)
      (hfree : c.Free) (hwhole : c.midFrame = false) :
      Alone first e (c, [.accept first.ticket id value, .answer first.ticket (.ok (.tools (found ++ page.tools)))])

/-- The first leaves, and the next one in line starts writing. -/
theorem leave_next (hline : c.line = [first]) (hwhole : c.midFrame = false) (next : Caller) (hjob : next.job ≠ .close)
    (effects : List (Effect AnswerResult)) :
    { c with line := c.line ++ [next] }.leave effects =
      ({ c with line := [next], activity := .writing, midFrame := true },
        effects ++ [.hold next.ticket, .send next.frame]) := by
  simp [leave, settle, grant, startFrame, hline, hwhole]

theorem Outcome.alone {stage : Stage} {s : Step} (h : c.Outcome first e s) (hat : first.At stage)
    (hline : c.line = [first]) (hbusy : c.Busy first) : Alone first e s := by
  have hleave {c' : Client} (hline' : c'.line = c.line) (effects : List (Effect AnswerResult)) :
      c'.leave effects = ({ c' with line := [], activity := .idle }, effects) :=
    leave_eq (by simp [hline', hline]) effects
  have hfail {failure : SessionError} (told : List (Effect AnswerResult)) (hmute : ∀ f ∈ told, f.Mute) :
      Alone first e (c.leave (told ++ [.answer first.ticket (.error failure)])) := by
    rw [hleave rfl]
    exact .fails ⟨rfl, rfl⟩ hmute
  have hmute {t : Nat} {id : RequestId} {value : Json} :
      ∀ f ∈ [.accept t id value], Effect.Mute (α := AnswerResult) f := by
    simp [Effect.Mute]
  cases h with
  | pass => exact .waits hline hbusy nofun
  | skip => exact .waits hline hbusy (by simp)
  | written hwrites hjob =>
      refine .waits hline ⟨nofun, fun _ => rfl, fun hrequest => ?_⟩ (by simp)
      -- Only the notification has no request, and when it is written the wait is over (`greeted`).
      cases hat with
      | ready => exact absurd rfl (hjob (hbusy.writes hrequest) _)
      | handshake => cases hrequest
      | listing => cases hrequest
  | reject hreading hframe =>
      have hrequest : first.request ≠ none := fun hnone => nomatch hreading.symm.trans (hbusy.writes hnone)
      exact .rejects rfl hframe hrequest hline ⟨nofun, nofun, fun hnone => absurd hnone hrequest⟩
  | fail => exact hfail [] nofun
  | expire => exact hfail [.abandon] (by simp [Effect.Mute])
  | closed hclosing => exact absurd hclosing hbusy.stays
  | greeted hjob =>
      rw [leave_eq (by simp [hline])]
      exact .confirmed hjob ⟨rfl, rfl⟩ rfl
  | @settle frame id value result haccepts hsettles =>
      cases hat with
      | handshake =>
          cases hsettles with
          | unwelcome => exact hfail [.accept _ id value] hmute
          | single hhandshake => exact absurd rfl hhandshake
      | ready => cases haccepts.request
      | @listing found =>
          cases hsettles with
          | unreadable => exact hfail [.accept _ id value] hmute
          | lastPage hread hlast =>
              rw [hleave rfl]
              exact .listed rfl hread hlast ⟨rfl, rfl⟩ (hbusy.whole haccepts.reading)
          | single _ hlisting => exact absurd rfl (hlisting found)
  | @greet frame id value welcome haccepts hjob hread =>
      have hwhole := hbusy.whole haccepts.reading
      have hnext := leave_next (c := { c with capabilities := some welcome.capabilities }) hline hwhole
        ⟨first.ticket, .ready welcome.server, none, Method.ready, readyNote.toJson.sorted⟩ nofun
        [.accept first.ticket id value]
      exact hnext ▸ .welcomed hjob rfl rfl
  | @turnPage frame id value found page cursor haccepts hjob hread hmore =>
      have hwhole := hbusy.whole haccepts.reading
      have hnext := leave_next (c := { c with nextId := c.nextId + 1 }) hline hwhole
        (.of first.ticket (.listing (found ++ page.tools)) (pageRequest c.nextId (some cursor))) nofun
        [.accept first.ticket id value, .arm first.ticket (pageRequest c.nextId (some cursor))]
      exact hnext ▸ .turns hjob hread hmore rfl rfl

theorem withdraw_alone (hline : c.line = [first]) (tickets : List Nat) :
    c.withdraw tickets =
      if tickets.contains first.ticket then ({ c with line := [], activity := .idle }, [.abandon]) else (c, []) := by
  unfold withdraw
  rw [hline]
  dsimp only
  cases hgone : tickets.contains first.ticket with
  | true =>
      have hrest : [first].filter (fun caller => !tickets.contains caller.ticket) = [] :=
        List.filter_cons_of_neg (by rw [hgone]; exact nofun)
      rw [hrest]
      rfl
  | false =>
      have hrest : [first].filter (fun caller => !tickets.contains caller.ticket) = [first] :=
        List.filter_cons_of_pos (by rw [hgone]; rfl)
      rw [hrest, ← hline]
      rfl

/-- The time of somebody else is none of this caller's business. -/
theorem expire_other (hline : c.line = [first]) {t : Nat} (hother : t ≠ first.ticket) : c.expire t = (c, []) := by
  have hnobody : c.line.find? (fun caller => caller.ticket == t && caller.request.isSome) = none := by
    simp [hline, hother.symm]
  unfold expire
  rw [hnobody]

theorem step_alone {stage : Stage} (hline : c.line = [first]) (hbusy : c.Busy first) (hat : first.At stage)
    (hask : ∀ t wish, e ≠ .ask t wish) : Alone first e (c.step e) := by
  have houtcome (hwithdrawn : ∀ tickets, e ≠ .withdrawn tickets) (hexpired : ∀ t, e = .expired t → t = first.ticket) :
      Alone first e (c.step e) :=
    (step_outcome hline hask hwithdrawn hexpired).alone hat hline hbusy
  cases e with
  | withdrawn tickets =>
      rw [show c.step (.withdrawn tickets) = c.withdraw tickets from rfl, withdraw_alone hline]
      split
      · exact .gone ⟨rfl, rfl⟩
      · exact .waits hline hbusy nofun
  | expired t =>
      by_cases hown : t = first.ticket
      · exact houtcome nofun fun _ heq => Event.expired.inj heq ▸ hown
      · rw [show c.step (.expired t) = c.expire t from rfl, expire_other hline hown]
        exact .waits hline hbusy nofun
  | _ => exact houtcome nofun nofun

end Client

end Colloquy.Session
