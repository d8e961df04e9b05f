import Colloquy.Proofs.Session.Connecting

/-! A connection that fails leaves nothing behind. Whatever made the handshake or the listing of the tools fail, the
transport is closed at once, for the first and the last time, nothing is sent any more, and the failure stays what it
was. A connection that does not fail has introduced itself and asked for pages of tools, and the transport is open
(`cleaned_up`). -/

namespace Colloquy.Session

open Rpc

namespace Connection

/-- Only a connection that introduces itself fails, and then it closes the transport. -/
theorem Course.failing {limit : Nat} {events : List Event} {c : Connection} {before : List (Effect Unit)} {e : Event}
    {cause : SessionError} (h : Course limit events c before) (hask : ∀ t wish, e ≠ .ask t wish)
    (hfails : c.FailsAt e cause) :
    ∃ told : List (Effect AnswerResult), (∀ f ∈ told, f.Mute) ∧
      (c.step e).2 = told.map Effect.shown ++ [.hold ticket, .close] ∧ (c.step e).1.stage = .closing cause ∧
      (c.step e).1.client.line = [closer] ∧ (c.step e).1.client.activity = .closing := by
  obtain ⟨hstage, htold⟩ := hfails
  have hquiet (hfree : c.client.Free) : False := by
    rw [Client.step_of_nobody hfree.line hask] at htold
    exact nomatch htold
  cases h with
  | introduces hline hbusy hat =>
      have halone := Client.step_alone hline hbusy hat hask
      generalize hstep : c.client.step e = s at halone htold
      cases halone with
      | waits _ _ hreceives => exact nomatch hreceives _ htold
      | @fails client told failure hfree hmute =>
          have hcause : failure = cause := by
            obtain hmem | hmem := List.mem_append.mp htold
            · exact (hmute _ hmem).elim
            · injection List.mem_singleton.mp hmem with _ heq
              exact (Except.error.inj heq).symm
          subst hcause
          rw [step_failing hat.introducing hstep hfree hmute]
          exact ⟨told, hmute, rfl, rfl, rfl, rfl⟩
      | _ => simp at htold
  | gone hfree => exact (hquiet hfree).elim
  | closes hclosing => simp [hclosing] at hstage
  | failed _ hfree => exact (hquiet hfree).elim
  | connected _ hfree => exact (hquiet hfree).elim

structure CleansUp (limit : Nat) (events : List Event) : Prop where
  /-- When something fails the transport is closed right away. However that ends, it is the failure that counts. -/
  failing : ∀ e cause, (∀ t wish, e ≠ .ask t wish) → ((start limit).1.after events).FailsAt e cause →
    (∃ told : List (Effect AnswerResult), (∀ f ∈ told, f.Mute) ∧
      done limit (events ++ [e]) = done limit events ++ told.map Effect.shown ++ [.hold ticket, .close]) ∧
    ∀ ending, (ending = .closed ∨ ∃ reason, ending = .closeFailed reason) →
      ((start limit).1.after (events ++ [e] ++ [ending])).stage = .failed (.protocol cause.message)
  /-- A connection has failed only so. -/
  failed : ∀ e, ((start limit).1.after events).stage = .failed e →
    ∃ cause, e = .protocol cause.message ∧ FailedBy limit events cause ∧ ClosedLast (done limit events)
  /-- Of a connection that has not failed nothing was closed. -/
  connected : ∀ server schemas, ((start limit).1.after events).stage = .connected server schemas →
    .close ∉ done limit events ∧
      ∃ rejected pages, framesSent (done limit events) =
          handshakeRequest.toJson.sorted :: rejected ++ readyNote.toJson.sorted :: pages ∧
        (∀ frame ∈ rejected, Rejects events frame) ∧ ∀ frame ∈ pages, Lists events frame

theorem cleaned_up (limit : Nat) {events : List Event} (hask : ∀ t wish, .ask t wish ∉ events) :
    CleansUp limit events := by
  have hcourse := course limit hask
  refine ⟨fun e cause hlast hfails => ?_, fun e hstage => ?_, fun server schemas hstage => ?_⟩
  · obtain ⟨told, hmute, heffects, hstage, hline, hclosing⟩ := hcourse.failing hlast hfails
    refine ⟨⟨told, hmute, ?_⟩, fun ending hends => ?_⟩
    · rw [done, during_concat, heffects, done]
      simp
    · rw [after_concat, after_concat, step_closed hstage hline hclosing hends]
  · exact hcourse.of_failed hstage
  · obtain ⟨-, -, hopen, ⟨found, hsent⟩, -⟩ := hcourse.of_connected hstage
    generalize framesSent (done limit events) = frames at hsent ⊢
    cases hsent with
    | listing hrejected hpages => exact ⟨hopen, _, _, rfl, hrejected, hpages⟩

/-- The server refuses the handshake, and then it cannot be stopped. -/
def refusedHandshake : List Event :=
  [.written, .received (Response.failure (some (nthId 1)) { code := -32000, message := "not ready" }).toJson,
    .closeFailed "still running"]

theorem cleaned_up_sample :
    ((start 100).1.after refusedHandshake).stage = .failed (.protocol "Server error (-32000): not ready") ∧
      ClosedLast (done 100 refusedHandshake) := by
  have hask : ∀ t wish, .ask t wish ∉ refusedHandshake := by simp [refusedHandshake]
  have hstage : ((start 100).1.after refusedHandshake).stage =
      .failed (.protocol "Server error (-32000): not ready") := rfl
  obtain ⟨cause, -, -, hclosed⟩ := (cleaned_up 100 hask).failed _ hstage
  exact ⟨hstage, hclosed⟩

end Connection

end Colloquy.Session
