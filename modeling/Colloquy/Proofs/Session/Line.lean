import Colloquy.Proofs.Session.Moves

/-! The callers in line. Whoever stands there is vouched for by the log (`Moves.vouched`): who is going to
close the transport has asked for it, who has a request had it started under its id, and who tells the
server that the handshake is over had it answered. -/

namespace Colloquy.Session

open Rpc

/-- What a log tells of a caller in line. -/
structure Caller.Vouched (log : Log) (caller : Caller) : Prop where
  close : caller.job = .close → .event (.ask caller.ticket .close) ∈ log
  ready : ∀ server, caller.job = .ready server → ∃ id value welcome,
    .effect (.accept caller.ticket id value) ∈ log ∧ Welcome.decode value = .ok welcome ∧ welcome.server = server
  request : ∀ id, caller.request = some id → ∃ request : Request,
    .effect (.arm caller.ticket request) ∈ log ∧ request.id = id ∧ caller.frame = request.toJson.sorted

variable {c c' : Client} {caller : Caller} {log more : Log}

theorem Caller.Vouched.mono (h : caller.Vouched log) (hlog : log ⊆ more) : caller.Vouched more where
  close hjob := hlog (h.close hjob)
  ready server hjob := by
    obtain ⟨id, value, welcome, hmem, hread, hserver⟩ := h.ready server hjob
    exact ⟨id, value, welcome, hlog hmem, hread, hserver⟩
  request id hid := by
    obtain ⟨request, hmem, hrequest, hframe⟩ := h.request id hid
    exact ⟨request, hlog hmem, hrequest, hframe⟩

/-- A move takes callers out of the line, or puts one at its end, for whom its own marks vouch. -/
theorem Move.line (hmove : Move c more c') :
    List.Sublist c'.line c.line ∨ ∃ caller, c'.line = c.line ++ [caller] ∧ caller.Vouched more := by
  cases hmove with
  | @join t wish job method params hclose hready =>
      refine .inr ⟨_, rfl, fun hjob => absurd hjob hclose, fun server hjob => absurd hjob (hready server), ?_⟩
      intro id hid
      exact ⟨_, List.mem_cons_of_mem _ (List.mem_singleton_self _), Option.some.inj hid, rfl⟩
  | turnPage hfirst hjob =>
      refine .inr ⟨_, rfl, nofun, nofun, ?_⟩
      intro id hid
      exact ⟨_, List.mem_singleton_self _, Option.some.inj hid, rfl⟩
  | joinToClose => exact .inr ⟨_, rfl, fun _ => List.mem_singleton_self _, nofun, nofun⟩
  | @acceptWelcome frame first id value welcome haccepts hjob hread =>
      refine .inr ⟨_, rfl, nofun, ?_, nofun⟩
      intro server hjob
      exact ⟨id, value, welcome, by simp, hread, Job.ready.inj hjob⟩
  | refuse hidle hline hjob hmid => exact .inl (hline ▸ List.sublist_cons_self _ _)
  | writeFailed => exact .inl (List.tail_sublist _)
  | leave => exact .inl (List.tail_sublist _)
  | abandon hrest => exact .inl (hrest.trans (List.tail_sublist _))
  | thin hrest => exact .inl hrest
  | _ => exact .inl (List.Sublist.refl _)

theorem Moves.vouched {limit : Nat} (h : Moves { limit } log c) : ∀ caller ∈ c.line, caller.Vouched log := by
  induction h with
  | none => exact nofun
  | @step log more c c' _ hmove ih =>
      intro caller hmem
      have hold (hmem : caller ∈ c.line) : caller.Vouched (log ++ more) :=
        (ih caller hmem).mono (List.subset_append_left _ _)
      obtain hsub | ⟨new, hline, hnew⟩ := hmove.line
      · exact hold (hsub.subset hmem)
      · rw [hline, List.mem_append, List.mem_singleton] at hmem
        obtain hmem | rfl := hmem
        · exact hold hmem
        · exact hnew.mono (List.subset_append_right _ _)

end Colloquy.Session
