import Mathlib.Data.List.Induction
import Colloquy.Proofs.Session.Alone
import Colloquy.Proofs.Session.Discovery

/-! Connecting. At every stage of a connection it is known who is in line and which frames were sent
(`Connection.course`). When something fails the transport is closed at once (`Connection.step_failing`). When the tools
are known the client is free and its stream is whole (`Connects.fresh`). -/

namespace Colloquy.Session

open Rpc

/-! ### Steps of a connection -/

/-- An effect as a connection shows it. -/
def Effect.shown : Effect AnswerResult → Effect Unit
  | .hold t => .hold t
  | .send frame => .send frame
  | .receive => .receive
  | .close => .close
  | .abandon => .abandon
  | .arm t request => .arm t request
  | .accept t id value => .accept t id value
  | .answer t _ => .answer t ()

namespace Connection

def Unanswered (effects : List (Effect AnswerResult)) : Prop := ∀ t result, Effect.answer t result ∉ effects

theorem unanswered_nil : Unanswered [] := fun _ _ => List.not_mem_nil

variable {c : Connection} {e : Event} {client client' : Client} {stage : Stage} {wish : Wish}
  {effects told asked : List (Effect AnswerResult)} {t : Nat} {result : AnswerResult}

theorem relay_unanswered (stage : Stage) (h : Unanswered effects) :
    relay stage effects = (effects.map Effect.shown, stage, none) := by
  induction effects with
  | nil => rfl
  | cons f effects ih =>
      have hrest := ih fun t result hmem => h t result (List.mem_cons_of_mem _ hmem)
      cases f with
      | answer t result => exact absurd List.mem_cons_self (h t result)
      | _ => simp [relay, hrest, Effect.shown]

/-- What comes before an answer is shown, and the answer itself if nothing follows from it. -/
theorem relay_answered (stage : Stage) (h : Unanswered told) (t : Nat) (result : AnswerResult) :
    relay stage (told ++ [.answer t result]) =
      (told.map Effect.shown ++ (if (follow stage result).2.isNone then [.answer t ()] else []),
        follow stage result) := by
  induction told with
  | nil =>
      unfold relay
      cases hfollow : follow stage result with
      | mk next wish => cases wish <;> simp [relay, hfollow]
  | cons f told ih =>
      have hrest := ih fun t result hmem => h t result (List.mem_cons_of_mem _ hmem)
      cases f with
      | answer t result => exact absurd List.mem_cons_self (h t result)
      | _ => simp [relay, hrest, Effect.shown]

theorem step_unanswered (h : c.client.step e = (client, effects)) (hnone : Unanswered effects) :
    c.step e = (⟨client, c.stage⟩, effects.map Effect.shown) := by
  unfold step
  rw [h]
  simp only [depth, advance, relay_unanswered c.stage hnone]

theorem step_answered (h : c.client.step e = (client, told ++ [.answer t result])) (hnone : Unanswered told)
    (hfollow : follow c.stage result = (stage, none)) :
    c.step e = (⟨client, stage⟩, told.map Effect.shown ++ [.answer t ()]) := by
  unfold step
  rw [h]
  simp only [depth, advance, relay_answered c.stage hnone, hfollow]
  rfl

/-- A wish follows from the answer. -/
theorem step_followed (h : c.client.step e = (client, told ++ [.answer t result])) (hnone : Unanswered told)
    (hfollow : follow c.stage result = (stage, some wish)) (hstep : client.step (.ask ticket wish) = (client', asked))
    (hasked : Unanswered asked) :
    c.step e = (⟨client', stage⟩, told.map Effect.shown ++ asked.map Effect.shown) := by
  unfold step
  rw [h]
  simp only [depth, advance, relay_answered c.stage hnone, hfollow, hstep, relay_unanswered stage hasked]
  simp

/-! ### The course of a connection -/

def after (c : Connection) (es : List Event) : Connection := es.foldl (fun c e => (c.step e).1) c

/-- What a connection does during some events. -/
def during (c : Connection) : List Event → List (Effect Unit)
  | [] => []
  | e :: es => (c.step e).2 ++ (c.step e).1.during es

theorem after_concat (c : Connection) (es : List Event) (e : Event) : c.after (es ++ [e]) = ((c.after es).step e).1 :=
  List.foldl_append

theorem during_concat (c : Connection) (es : List Event) (e : Event) :
    c.during (es ++ [e]) = c.during es ++ ((c.after es).step e).2 := by
  induction es generalizing c with
  | nil => exact List.append_nil _
  | cons first es ih =>
      rw [List.cons_append, during, ih, during, List.append_assoc]
      rfl

/-- What a connection has done after some events, from its start on. -/
def done (limit : Nat) (events : List Event) : List (Effect Unit) := (start limit).2 ++ (start limit).1.during events

def framesSent (effects : List (Effect Unit)) : List Json :=
  effects.filterMap fun
    | .send frame => some frame
    | _ => none

@[simp]
theorem framesSent_append (effects more : List (Effect Unit)) :
    framesSent (effects ++ more) = framesSent effects ++ framesSent more :=
  List.filterMap_append

/-- The frame rejects a request that the server has made. -/
def Rejects (events : List Event) (frame : Json) : Prop :=
  ∃ received r, .received received ∈ events ∧ classify received = .ok (.request r) ∧ frame = rejection r.id

/-- The frame asks for a page of tools, or it rejects a request of the server. -/
def Lists (events : List Event) (frame : Json) : Prop :=
  (∃ n cursor, frame = (pageRequest n cursor).toJson.sorted) ∨ Rejects events frame

/-- The frames that were sent while the caller of a connection has come this far. -/
inductive Introduces (events : List Event) : Job → List Json → Prop where
  | handshake {rejected : List Json} (hrejected : ∀ frame ∈ rejected, Rejects events frame) :
      Introduces events .handshake (handshakeRequest.toJson.sorted :: rejected)
  | ready {server : ServerInfo} {rejected : List Json} (hrejected : ∀ frame ∈ rejected, Rejects events frame) :
      Introduces events (.ready server) (handshakeRequest.toJson.sorted :: rejected ++ [readyNote.toJson.sorted])
  | listing {found : List ServerTool} {rejected pages : List Json}
      (hrejected : ∀ frame ∈ rejected, Rejects events frame) (hpages : ∀ frame ∈ pages, Lists events frame) :
      Introduces events (.listing found)
        (handshakeRequest.toJson.sorted :: rejected ++ readyNote.toJson.sorted :: pages)

/-- The results that were accepted. -/
def acceptedIn (effects : List (Effect Unit)) : List Json :=
  effects.filterMap fun
    | .accept _ _ value => some value
    | _ => none

@[simp]
theorem acceptedIn_append (effects more : List (Effect Unit)) :
    acceptedIn (effects ++ more) = acceptedIn effects ++ acceptedIn more :=
  List.filterMap_append

/-- The values are read as these pages of tools. -/
def ReadAs (values : List Json) (pages : List ToolsPage) : Prop :=
  values.Forall₂ (fun value page => ToolsPage.decode value = .ok page) pages

/-- The results that were accepted while the caller of a connection has come this far. -/
inductive Gathers : Job → List Json → Prop where
  | handshake : Gathers .handshake []
  | ready {server : ServerInfo} {welcome : Json} : Gathers (.ready server) [welcome]
  | listing {welcome : Json} {values : List Json} {pages : List ToolsPage} (hread : ReadAs values pages)
      (hmore : ∀ page ∈ pages, page.following? ≠ none) :
      Gathers (.listing (pages.flatMap (·.tools))) (welcome :: values)

/-- After a welcome these pages of tools were accepted, each but the last with the cursor of another one. -/
def Collects (accepted : List Json) (pages : List ToolsPage) : Prop :=
  ∃ welcome values earlier last, accepted = welcome :: values ∧ ReadAs values pages ∧ pages = earlier ++ [last] ∧
    (∀ page ∈ earlier, page.following? ≠ none) ∧ last.following? = none

/-- The transport was closed once, and nothing was sent any more. -/
def ClosedLast (effects : List (Effect Unit)) : Prop :=
  ∃ before after, effects = before ++ .close :: after ∧ .close ∉ before ∧ .close ∉ after ∧ ∀ frame, .send frame ∉ after

/-- The event makes the handshake or the listing of the tools fail. -/
structure FailsAt (c : Connection) (e : Event) (cause : SessionError) : Prop where
  introducing : c.stage = .greeting ∨ ∃ server, c.stage = .listing server
  told : .answer ticket (.error cause) ∈ (c.client.step e).2

/-- At one of the events the connection has failed. -/
def FailedBy (limit : Nat) (events : List Event) (cause : SessionError) : Prop :=
  ∃ earlier e later, events = earlier ++ e :: later ∧ ((start limit).1.after earlier).FailsAt e cause

/-- The caller that closes the transport. -/
def closer : Caller := ⟨ticket, .close, none, "", .null⟩

/-- Who is in line at a stage, and what was done until then. -/
inductive Course (limit : Nat) (events : List Event) : Connection → List (Effect Unit) → Prop where
  | introduces {c : Connection} {effects : List (Effect Unit)} {first : Caller} (hline : c.client.line = [first])
      (hbusy : c.client.Busy first) (hat : first.At c.stage) (hopen : .close ∉ effects)
      (hsent : Introduces events first.job (framesSent effects)) (hgathers : Gathers first.job (acceptedIn effects)) :
      Course limit events c effects
  /-- The caller has gone away. -/
  | gone {c : Connection} {effects : List (Effect Unit)} (hfree : c.client.Free)
      (hstage : c.stage = .greeting ∨ (∃ server, c.stage = .listing server) ∨ ∃ cause, c.stage = .closing cause) :
      Course limit events c effects
  | closes {c : Connection} {effects : List (Effect Unit)} {cause : SessionError} (hstage : c.stage = .closing cause)
      (hline : c.client.line = [closer]) (hclosing : c.client.activity = .closing)
      (hcause : FailedBy limit events cause) (hclosed : ClosedLast effects) : Course limit events c effects
  | failed {c : Connection} {effects : List (Effect Unit)} {cause : SessionError}
      (hstage : c.stage = .failed (.protocol cause.message)) (hfree : c.client.Free)
      (hcause : FailedBy limit events cause) (hclosed : ClosedLast effects) : Course limit events c effects
  | connected {c : Connection} {effects : List (Effect Unit)} {server : ServerInfo} {pages : List ToolsPage}
      {found : List ServerTool}
      (hstage : c.stage = .connected server ((pages.flatMap (·.tools)).map ServerTool.toSchema)) (hfree : c.client.Free)
      (hwhole : c.client.midFrame = false) (hopen : .close ∉ effects)
      (hsent : Introduces events (.listing found) (framesSent effects))
      (hcollects : Collects (acceptedIn effects) pages) : Course limit events c effects

section

variable {limit : Nat} {events : List Event} {before : List (Effect Unit)} {cause : SessionError} {first : Caller}
  {job : Job} {frames : List Json} {frame : Json}

theorem Rejects.mono (h : Rejects events frame) (e : Event) : Rejects (events ++ [e]) frame := by
  obtain ⟨received, r, hmem, hr, hframe⟩ := h
  exact ⟨received, r, List.mem_append_left _ hmem, hr, hframe⟩

theorem Lists.mono (h : Lists events frame) (e : Event) : Lists (events ++ [e]) frame := h.imp_right fun h => h.mono e

theorem Introduces.mono (h : Introduces events job frames) (e : Event) : Introduces (events ++ [e]) job frames := by
  cases h with
  | handshake hrejected => exact .handshake fun frame hmem => (hrejected frame hmem).mono e
  | ready hrejected => exact .ready fun frame hmem => (hrejected frame hmem).mono e
  | listing hrejected hpages =>
      exact .listing (fun frame hmem => (hrejected frame hmem).mono e) fun frame hmem => (hpages frame hmem).mono e

theorem FailedBy.mono (h : FailedBy limit events cause) (e : Event) : FailedBy limit (events ++ [e]) cause := by
  obtain ⟨earlier, first, later, rfl, hfails⟩ := h
  exact ⟨earlier, first, later ++ [e], by simp, hfails⟩

theorem ClosedLast.append (h : ClosedLast before) {more : List (Effect Unit)} (hclose : .close ∉ more)
    (hsend : ∀ frame, .send frame ∉ more) : ClosedLast (before ++ more) := by
  obtain ⟨earlier, later, rfl, hbefore, hafter, hquiet⟩ := h
  refine ⟨earlier, later ++ more, by simp, hbefore, ?_, fun frame hmem => ?_⟩
  · simp [hafter, hclose]
  · exact (List.mem_append.mp hmem).elim (hquiet frame) (hsend frame)

theorem Introduces.reject (h : Introduces events job frames) (hjob : ∀ server, job ≠ .ready server)
    (hframe : Rejects events frame) : Introduces events job (frames ++ [frame]) := by
  cases h with
  | @handshake rejected hrejected =>
      exact .handshake (List.forall_mem_append.mpr ⟨hrejected, List.forall_mem_singleton.mpr hframe⟩)
  | ready => exact absurd rfl (hjob _)
  | @listing found rejected pages hrejected hpages =>
      have hall : ∀ f ∈ pages ++ [frame], Lists events f :=
        List.forall_mem_append.mpr ⟨hpages, List.forall_mem_singleton.mpr (.inr hframe)⟩
      have hnext : Introduces events (.listing found) _ := .listing hrejected hall
      simpa using hnext

theorem Introduces.welcomed (h : Introduces events .handshake frames) (server : ServerInfo) :
    Introduces events (.ready server) (frames ++ [readyNote.toJson.sorted]) := by
  cases h with
  | handshake hrejected => exact .ready hrejected

theorem Introduces.confirmed {server : ServerInfo} (h : Introduces events (.ready server) frames) (n : Nat) :
    Introduces events (.listing []) (frames ++ [(pageRequest n none).toJson.sorted]) := by
  cases h with
  | @ready _ rejected hrejected =>
      have hpages : ∀ frame ∈ [(pageRequest n none).toJson.sorted], Lists events frame :=
        List.forall_mem_singleton.mpr (.inl ⟨n, none, rfl⟩)
      have hnext : Introduces events (.listing []) _ := .listing hrejected hpages
      simpa using hnext

theorem Introduces.turned {found : List ServerTool} (h : Introduces events (.listing found) frames) (n : Nat)
    (cursor : Option String) (more : List ServerTool) :
    Introduces events (.listing more) (frames ++ [(pageRequest n cursor).toJson.sorted]) := by
  cases h with
  | @listing _ rejected pages hrejected hpages =>
      have hall : ∀ frame ∈ pages ++ [(pageRequest n cursor).toJson.sorted], Lists events frame :=
        List.forall_mem_append.mpr ⟨hpages, List.forall_mem_singleton.mpr (.inl ⟨n, cursor, rfl⟩)⟩
      have hnext : Introduces events (.listing more) _ := .listing hrejected hall
      simpa using hnext

end

section

variable {accepted : List Json} {value : Json} {page : ToolsPage} {found : List ServerTool}

theorem Gathers.welcomed (h : Gathers .handshake accepted) (server : ServerInfo) (welcome : Json) :
    Gathers (.ready server) (accepted ++ [welcome]) := by
  cases h
  exact .ready

theorem Gathers.confirmed {server : ServerInfo} (h : Gathers (.ready server) accepted) :
    Gathers (.listing []) accepted := by
  cases h
  have hnone : ReadAs [] [] := .nil
  exact .listing hnone (List.forall_mem_nil _)

theorem Gathers.turned (h : Gathers (.listing found) accepted) (hread : ToolsPage.decode value = .ok page)
    (hmore : page.following? ≠ none) : Gathers (.listing (found ++ page.tools)) (accepted ++ [value]) := by
  cases h with
  | @listing welcome values pages hpages hearlier =>
      have hall : Gathers _ (welcome :: (values ++ [value])) := .listing (List.rel_append hpages (.cons hread .nil))
        (List.forall_mem_append.mpr ⟨hearlier, List.forall_mem_singleton.mpr hmore⟩)
      simpa using hall

theorem Gathers.collects (h : Gathers (.listing found) accepted) (hread : ToolsPage.decode value = .ok page)
    (hlast : page.following? = none) :
    ∃ pages, found ++ page.tools = pages.flatMap (·.tools) ∧ Collects (accepted ++ [value]) pages := by
  cases h with
  | @listing welcome values pages hpages hearlier =>
      refine ⟨pages ++ [page], by simp, welcome, values ++ [value], pages, page, rfl, ?_, rfl, hearlier, hlast⟩
      exact List.rel_append hpages (.cons hread .nil)

end

section

variable {limit : Nat} {events : List Event} {before : List (Effect Unit)} {effects : List (Effect AnswerResult)}

theorem unanswered_of_mute (h : ∀ f ∈ effects, f.Mute) : Unanswered effects := fun _ _ hmem => h _ hmem

theorem framesSent_of_mute (h : ∀ f ∈ effects, f.Mute) : framesSent (effects.map Effect.shown) = [] := by
  refine List.filterMap_eq_nil_iff.mpr fun f hf => ?_
  obtain ⟨f, hmem, rfl⟩ := List.mem_map.mp hf
  cases f with
  | send frame => exact (h _ hmem).elim
  | _ => rfl

theorem mute_of_receives (h : ∀ f ∈ effects, f = .receive) : ∀ f ∈ effects, f.Mute := by
  intro f hf
  rw [h f hf]
  trivial

theorem acceptedIn_of_receives (h : ∀ f ∈ effects, f = .receive) : acceptedIn (effects.map Effect.shown) = [] := by
  refine List.filterMap_eq_nil_iff.mpr fun f hf => ?_
  obtain ⟨f, hmem, rfl⟩ := List.mem_map.mp hf
  rw [h f hmem]
  rfl

theorem close_of_mute (h : ∀ f ∈ effects, f.Mute) : .close ∉ effects.map Effect.shown := by
  intro hclose
  obtain ⟨f, hmem, hf⟩ := List.mem_map.mp hclose
  cases f with
  | close => exact h _ hmem
  | _ => cases hf

theorem step_of_free {c : Connection} {e : Event} (hfree : c.client.Free) (hask : ∀ t wish, e ≠ .ask t wish) :
    c.step e = (c, []) :=
  step_unanswered (Client.step_of_nobody hfree.line hask) unanswered_nil

theorem step_close {client : Client} (hfree : client.Free) :
    client.step (.ask ticket .close) =
      ({ client with line := [closer], activity := .closing }, [.hold ticket, .close]) := by
  simp [Client.step, Client.takeUp, Client.enqueueClose, Client.settle, Client.grant, hfree.line, hfree.idle, closer]

/-- After a failure the transport is closed at once. -/
theorem step_failing {c : Connection} {e : Event} {client : Client} {told : List (Effect AnswerResult)} {t : Nat}
    {failure : SessionError} (hstage : c.stage = .greeting ∨ ∃ server, c.stage = .listing server)
    (hstep : c.client.step e = (client, told ++ [.answer t (.error failure)])) (hfree : client.Free)
    (hmute : ∀ f ∈ told, f.Mute) :
    c.step e = (⟨{ client with line := [closer], activity := .closing }, .closing failure⟩,
      told.map Effect.shown ++ [.hold ticket, .close]) := by
  have hfollow : follow c.stage (.error failure) = (.closing failure, some .close) := by
    obtain hstage | ⟨server, hstage⟩ := hstage <;> rw [hstage] <;> rfl
  exact step_followed hstep (unanswered_of_mute hmute) hfollow (step_close hfree) (by simp [Unanswered])

end

section

variable {limit : Nat} {events : List Event} {c : Connection} {before : List (Effect Unit)} {e : Event}

theorem Course.of_free (h : Course limit events c before) (hfree : c.client.Free) (e : Event) :
    Course limit (events ++ [e]) c before := by
  cases h with
  | introduces hline => exact nomatch hfree.line.symm.trans hline
  | closes _ hline => exact nomatch hfree.line.symm.trans hline
  | gone hfree hstage => exact .gone hfree hstage
  | failed hstage hfree hcause hclosed => exact .failed hstage hfree (hcause.mono e) hclosed
  | connected hstage hfree hwhole hopen hsent hcollects =>
      exact .connected hstage hfree hwhole hopen (hsent.mono e) hcollects

/-- However the closing ends, the failure stays as it is. -/
theorem step_closed {cause : SessionError} (hstage : c.stage = .closing cause) (hline : c.client.line = [closer])
    (hclosing : c.client.activity = .closing) (hends : e = .closed ∨ ∃ reason, e = .closeFailed reason) :
    c.step e = (⟨{ c.client with line := [], activity := .idle }, .failed (.protocol cause.message)⟩,
      [.answer ticket ()]) := by
  have hfollow (result : AnswerResult) : follow c.stage result = (.failed (.protocol cause.message), none) := by
    rw [hstage]
    cases result <;> rfl
  have hleave (result : AnswerResult) : c.client.finish closer result =
      ({ c.client with line := [], activity := .idle }, [] ++ [.answer ticket result]) :=
    Client.leave_eq (by simp [hline]) _
  obtain rfl | ⟨reason, rfl⟩ := hends
  · have hstep : c.client.step .closed = c.client.finish closer (.ok .done) := by
      simp only [Client.step, hclosing, hline]
    exact step_answered (hstep.trans (hleave _)) unanswered_nil (hfollow _)
  · have hstep : c.client.step (.closeFailed reason) = c.client.finish closer (.error (.transport reason)) := by
      simp only [Client.step, hclosing, hline]
    exact step_answered (hstep.trans (hleave _)) unanswered_nil (hfollow _)

theorem Course.step_closing {cause : SessionError} (hstage : c.stage = .closing cause)
    (hline : c.client.line = [closer]) (hclosing : c.client.activity = .closing) (hcause : FailedBy limit events cause)
    (hclosed : ClosedLast before) (hask : ∀ t wish, e ≠ .ask t wish) :
    Course limit (events ++ [e]) (c.step e).1 (before ++ (c.step e).2) := by
  have hends (hends : e = .closed ∨ ∃ reason, e = .closeFailed reason) :
      Course limit (events ++ [e]) (c.step e).1 (before ++ (c.step e).2) := by
    rw [step_closed hstage hline hclosing hends]
    exact .failed rfl ⟨rfl, rfl⟩ (hcause.mono e) (hclosed.append (by simp) (by simp))
  have hstays (hstep : c.client.step e = (c.client, [])) :
      Course limit (events ++ [e]) (c.step e).1 (before ++ (c.step e).2) := by
    rw [step_unanswered hstep unanswered_nil]
    exact .closes hstage hline hclosing (hcause.mono e) (hclosed.append List.not_mem_nil fun _ => List.not_mem_nil)
  cases e with
  | ask t wish => exact absurd rfl (hask t wish)
  | closed => exact hends (.inl rfl)
  | closeFailed reason => exact hends (.inr ⟨reason, rfl⟩)
  | expired t => exact hstays (by simp [Client.step, Client.expire, hline, closer])
  | withdrawn tickets =>
      have hstep : c.client.step (.withdrawn tickets) = c.client.withdraw tickets := rfl
      rw [Client.withdraw_alone hline] at hstep
      split at hstep
      · rw [step_unanswered hstep (by simp [Unanswered])]
        exact .gone ⟨rfl, rfl⟩ (.inr (.inr ⟨cause, hstage⟩))
      · exact hstays hstep
  | _ => exact hstays (by simp [Client.step, hclosing])

theorem Course.step_introducing {first : Caller} (hc : (start limit).1.after events = c)
    (hline : c.client.line = [first]) (hbusy : c.client.Busy first) (hat : first.At c.stage) (hopen : .close ∉ before)
    (hsent : Introduces events first.job (framesSent before)) (hgathers : Gathers first.job (acceptedIn before))
    (hask : ∀ t wish, e ≠ .ask t wish) :
    Course limit (events ++ [e]) (c.step e).1 (before ++ (c.step e).2) := by
  have halone := Client.step_alone hline hbusy hat hask
  generalize hstep : c.client.step e = s at halone
  cases halone with
  | @waits client effects hline hbusy hreceives =>
      have hmute := mute_of_receives hreceives
      rw [step_unanswered hstep (unanswered_of_mute hmute)]
      refine .introduces hline hbusy hat ?_ ?_ ?_
      · simp [hopen, close_of_mute hmute]
      · rw [framesSent_append, framesSent_of_mute hmute, List.append_nil]
        exact hsent.mono e
      · rwa [acceptedIn_append, acceptedIn_of_receives hreceives, List.append_nil]
  | @rejects client frame r hevent hframe hrequest hline hbusy =>
      rw [step_unanswered hstep (by simp [Unanswered])]
      have hrejects : Rejects (events ++ [e]) (rejection r.id) := ⟨frame, r, by simp [hevent], hframe, rfl⟩
      refine .introduces hline hbusy hat (by simp [hopen, Effect.shown]) ?_ ?_
      · rw [framesSent_append]
        exact (hsent.mono e).reject (hat.ne_ready hrequest) hrejects
      · rw [acceptedIn_append]
        exact (List.append_nil (acceptedIn before)).symm ▸ hgathers
  | gone hfree =>
      rw [step_unanswered hstep (by simp [Unanswered])]
      exact .gone hfree (hat.introducing.imp_right .inl)
  | @fails client told failure hfree hmute =>
      rw [step_failing hat.introducing hstep hfree hmute]
      -- This event is the one at which the connection has failed.
      have hfails : ((start limit).1.after events).FailsAt e failure := by
        rw [hc]
        refine ⟨hat.introducing, ?_⟩
        rw [hstep, hat.ticket]
        exact List.mem_append_right _ (List.mem_singleton_self _)
      refine .closes rfl rfl rfl ⟨events, e, [], rfl, hfails⟩
        ⟨before ++ told.map Effect.shown ++ [.hold ticket], [], by simp, ?_, List.not_mem_nil,
          fun _ => List.not_mem_nil⟩
      simp [hopen, close_of_mute hmute]
  | @welcomed client id value server hjob hline hwriting =>
      rw [step_unanswered hstep (by simp [Unanswered])]
      rw [hjob] at hsent hgathers
      refine .introduces hline (.of_writing hwriting) ?_ (by simp [hopen, Effect.shown]) ?_ ?_
      · rw [hat.ticket, hat.greeting_of_handshake hjob]
        exact .ready
      · rw [framesSent_append]
        exact (hsent.mono e).welcomed server
      · rw [acceptedIn_append]
        exact hgathers.welcomed server value
  | @confirmed client server hjob hfree hwhole =>
      have hstage := hat.greeting_of_ready hjob
      -- The answer is not shown: it makes the caller ask for the tools in the same step.
      have hfollow : follow c.stage (.ok (.server server)) = (.listing server, some .listTools) := by
        rw [hstage]
        rfl
      have hask := Client.step_listTools hfree.line hfree.idle hwhole ticket
      have hanswered : c.client.step e = (client, [] ++ [.answer first.ticket (.ok (.server server))]) := hstep
      rw [step_followed hanswered unanswered_nil hfollow hask (by simp [Unanswered, opened])]
      rw [hjob] at hsent hgathers
      refine .introduces rfl (.of_writing rfl) .listing (by simp [hopen, opened, Effect.shown]) ?_ ?_
      · rw [framesSent_append]
        exact (hsent.mono e).confirmed client.nextId
      · rw [acceptedIn_append]
        exact (List.append_nil (acceptedIn before)).symm ▸ hgathers.confirmed
  | @turns client id value page n cursor found hjob hread hmore hline hwriting =>
      rw [step_unanswered hstep (by simp [Unanswered])]
      obtain ⟨server, hstage⟩ := hat.listing_of_listing hjob
      rw [hjob] at hsent hgathers
      refine .introduces hline (.of_writing hwriting) ?_ (by simp [hopen, Effect.shown]) ?_ ?_
      · rw [hat.ticket, hstage]
        exact .listing
      · rw [framesSent_append]
        exact (hsent.mono e).turned n (some cursor) _
      · rw [acceptedIn_append]
        exact hgathers.turned hread (hmore ▸ Option.some_ne_none cursor)
  | @listed client id value page found hjob hread hlast hfree hwhole =>
      obtain ⟨server, hstage⟩ := hat.listing_of_listing hjob
      rw [hjob] at hsent hgathers
      obtain ⟨pages, hall, hcollects⟩ := hgathers.collects hread hlast
      have hfollow : follow c.stage (.ok (.tools (found ++ page.tools))) =
          (.connected server ((pages.flatMap (·.tools)).map ServerTool.toSchema), none) := by
        rw [hstage, hall]
        rfl
      have hanswered : c.client.step e = (client,
          [.accept first.ticket id value] ++ [.answer first.ticket (.ok (.tools (found ++ page.tools)))]) := hstep
      have hsame : framesSent (before ++ ([Effect.accept first.ticket id value].map Effect.shown ++
          [.answer first.ticket ()])) = framesSent before := by
        rw [framesSent_append]
        exact List.append_nil _
      rw [step_answered hanswered (by simp [Unanswered]) hfollow]
      refine .connected rfl hfree hwhole (by simp [hopen, Effect.shown]) (hsame ▸ hsent.mono e) ?_
      rw [acceptedIn_append]
      exact hcollects

theorem course_start (limit : Nat) : Course limit [] (start limit).1 (start limit).2 := by
  have hat : (Caller.of ticket .handshake handshakeRequest).At (start limit).1.stage := .handshake
  refine .introduces rfl (.of_writing rfl) hat ?_ (.handshake (List.forall_mem_nil _)) .handshake
  have hdone : (start limit).2 =
    [.arm ticket handshakeRequest, .hold ticket, .send handshakeRequest.toJson.sorted] := rfl
  simp [hdone]

theorem Course.step (hc : (start limit).1.after events = c) (h : Course limit events c before)
    (hask : ∀ t wish, e ≠ .ask t wish) : Course limit (events ++ [e]) (c.step e).1 (before ++ (c.step e).2) := by
  have hover (hfree : c.client.Free) : Course limit (events ++ [e]) (c.step e).1 (before ++ (c.step e).2) := by
    rw [step_of_free hfree hask, List.append_nil]
    exact h.of_free hfree e
  cases h with
  | introduces hline hbusy hat hopen hsent hgathers =>
      exact step_introducing hc hline hbusy hat hopen hsent hgathers hask
  | closes hstage hline hclosing hcause hclosed => exact step_closing hstage hline hclosing hcause hclosed hask
  | gone hfree => exact hover hfree
  | failed _ hfree => exact hover hfree
  | connected _ hfree => exact hover hfree

/-- A connection that is left to itself, whatever its server does. -/
theorem course (limit : Nat) (hask : ∀ t wish, .ask t wish ∉ events) :
    Course limit events ((start limit).1.after events) (done limit events) := by
  -- From the last event, since a stage tells of all the events before it (`FailedBy`, `Rejects`).
  induction events using List.reverseRecOn with
  | nil =>
      rw [done, during, List.append_nil]
      exact course_start limit
  | append_singleton events e ih =>
      have hearlier : ∀ t wish, .ask t wish ∉ events := fun t wish hmem => hask t wish (List.mem_append_left _ hmem)
      have hlast : ∀ t wish, e ≠ .ask t wish := fun t wish heq => hask t wish (by simp [heq])
      have hnext := (ih hearlier).step rfl hlast
      rwa [after_concat, done, during_concat, ← List.append_assoc]

/-- Of a connection that has failed. -/
theorem Course.of_failed (h : Course limit events c before) {failure : Failure}
    (hstage : c.stage = .failed failure) :
    ∃ cause, failure = .protocol cause.message ∧ FailedBy limit events cause ∧ ClosedLast before := by
  cases h with
  | failed hfailed _ hcause hclosed =>
      rw [hstage] at hfailed
      exact ⟨_, Stage.failed.inj hfailed, hcause, hclosed⟩
  | introduces _ _ hat =>
      rw [hstage] at hat
      cases hat
  | gone _ hgone => simp [hstage] at hgone
  | closes hcloses => simp [hstage] at hcloses
  | connected hconnected => simp [hstage] at hconnected

theorem Course.of_connected (h : Course limit events c before) {server : ServerInfo} {schemas : List ToolSchema}
    (hstage : c.stage = .connected server schemas) :
    c.client.Free ∧ c.client.midFrame = false ∧ .close ∉ before ∧
      (∃ found, Introduces events (.listing found) (framesSent before)) ∧
      ∃ pages, Collects (acceptedIn before) pages ∧ schemas = (pages.flatMap (·.tools)).map ServerTool.toSchema := by
  cases h with
  | connected hconnected hfree hwhole hopen hsent hcollects =>
      rw [hstage] at hconnected
      exact ⟨hfree, hwhole, hopen, ⟨_, hsent⟩, _, hcollects, (Stage.connected.inj hconnected).2⟩
  | introduces _ _ hat =>
      rw [hstage] at hat
      cases hat
  | gone _ hgone => simp [hstage] at hgone
  | closes hcloses => simp [hstage] at hcloses
  | failed hfailed => simp [hstage] at hfailed

end

end Connection

/-- A connection that is left to itself comes to its toolbox. -/
structure Connects (limit : Nat) (events : List Event) (b : Toolbox) : Prop where
  left : ∀ t wish, .ask t wish ∉ events
  toolbox : ((Connection.start limit).1.after events).toolbox? = some b

/-- Nobody uses the toolbox, and nobody has so far. -/
structure Toolbox.Fresh (b : Toolbox) : Prop where
  line : b.client.line = []
  activity : b.client.activity = .idle
  midFrame : b.client.midFrame = false
  closed : b.closed = false
  broken : b.broken = false

theorem Connects.fresh {limit : Nat} {events : List Event} {b : Toolbox} (h : Connects limit events b) : b.Fresh := by
  have hcourse := Connection.course limit h.left
  have htoolbox := h.toolbox
  generalize (Connection.start limit).1.after events = c at hcourse htoolbox
  unfold Connection.toolbox? at htoolbox
  split at htoolbox
  · next server schemas hconnected =>
      cases htoolbox
      obtain ⟨hfree, hwhole, -⟩ := hcourse.of_connected hconnected
      exact ⟨hfree.line, hfree.idle, hwhole, rfl, rfl⟩
  · cases htoolbox

end Colloquy.Session
