import Mathlib.Algebra.Group.Nat.Defs
import Mathlib.Data.List.Nodup
import Colloquy.Proofs.Session.Stream

/-! Results and the requests they belong to. A caller gets the value of a frame that came after its own
request was written out, as the very frame that was read last, with the id of that request
(`Client.Accepts.rightly`). Ids are counted up, so that no two requests share one
(`Moves.requests`), and what was left behind by a request whose time was up is passed over
(`responses_matched`). -/

namespace Colloquy.Session

open Rpc

/-- Up to here, the caller had a request with the id started and its frame went out in full; then a frame
came, as the last thing, that responds to the id with the value. -/
def RightlyAccepted (before : Log) (t : Nat) (id : RequestId) (value : Json) : Prop :=
  ∃ earlier frame, before = earlier ++ [.event (.received frame)] ∧ Responds frame id value ∧
    ∃ request : Request, .effect (.arm t request) ∈ earlier ∧ request.id = id ∧
      ⟨request.toJson.sorted, .complete⟩ ∈ attempts earlier

/-- What an answer rests on: the value that was accepted right before it, the one of the handshake, or the
caller's wish to close. -/
def Answer.Backed (before : Log) (t : Nat) (a : Answer) : Prop :=
  (∃ id value, before.getLast? = some (.effect (.accept t id value)) ∧ a.ReadFrom value) ∨
    (∃ id value welcome, .effect (.accept t id value) ∈ before ∧ Welcome.decode value = .ok welcome ∧
      a = .server welcome.server) ∨
    (a = .done ∧ .event (.ask t .close) ∈ before)

def MatchRule (before : Log) (m : Mark) (_ : Log) : Prop :=
  match m with
  | .effect (.accept t id value) => RightlyAccepted before t id value
  | .effect (.answer t (.ok a)) => a.Backed before t
  | _ => True

variable {c c' : Client} {log more : Log}

theorem Client.Accepts.rightly {frame : Json} {first : Caller} {id : RequestId} {value : Json}
    (haccepts : c.Accepts frame first id value) (h : Standing c.activity c.line c.midFrame (attempts log))
    (hline : ∀ caller ∈ c.line, caller.Vouched log) :
    RightlyAccepted (log ++ [.event (.received frame)]) first.ticket id value := by
  obtain ⟨request, harm, hid, hframe⟩ :=
    (hline first (List.mem_of_head? haccepts.isFirst)).request id haccepts.request
  have hsent := (haccepts.reading ▸ h).sent haccepts.isFirst
  exact ⟨log, frame, rfl, haccepts.responds, request, harm, hid, hframe ▸ hsent⟩

theorem Move.matchRule (hmove : Move c more c') (h : Standing c.activity c.line c.midFrame (attempts log))
    (hline : ∀ caller ∈ c.line, caller.Vouched log) : Throughout MatchRule log more := by
  cases hmove with
  | accept haccepts => exact ⟨trivial, haccepts.rightly h hline, trivial⟩
  | acceptWelcome haccepts hjob hread => exact ⟨trivial, haccepts.rightly h hline, trivial⟩
  | acceptAndAnswer haccepts hread =>
      exact ⟨trivial, haccepts.rightly h hline, .inl ⟨_, _, List.getLast?_concat, hread⟩, trivial⟩
  | @welcome first server hreading hfirst hjob =>
      have hvouched := hline first (List.mem_of_head? hfirst)
      obtain ⟨id, value, welcome, haccept, hread, rfl⟩ := hvouched.ready server hjob
      exact ⟨.inr (.inl ⟨id, value, welcome, haccept, hread, rfl⟩), trivial⟩
  | @closed first hclosing hfirst =>
      have hjob := (hclosing ▸ h).closes hfirst
      exact ⟨.inr (.inr ⟨rfl, (hline first (List.mem_of_head? hfirst)).close hjob⟩), trivial⟩
  | join => exact ⟨trivial, trivial, trivial⟩
  | turnPage => exact ⟨trivial, trivial⟩
  | _ => simp [Throughout, MatchRule]

theorem Moves.matchRule {limit : Nat} (h : Moves { limit } log c) : Throughout MatchRule [] log := by
  induction h with
  | none => trivial
  | step hmoves hmove ih => exact ih.append (fun hrule _ => hrule) (hmove.matchRule hmoves.standing hmoves.vouched)

/-! ### Ids -/

/-- The id of the request that is started as the `n`th, counted from one. -/
def nthId (n : Nat) : RequestId := .number (Int64.ofNat n)

theorem Move.requests (hmove : Move c more c') :
    more.filterMap Mark.request? = [] ∧ c'.nextId = c.nextId ∨
      ∃ request, more.filterMap Mark.request? = [request] ∧ request.id = nthId c.nextId ∧
        c'.nextId = c.nextId + 1 := by
  cases hmove with
  | join => exact .inr ⟨_, rfl, rfl, rfl⟩
  | turnPage => exact .inr ⟨_, rfl, rfl, rfl⟩
  | _ => exact .inl ⟨rfl, rfl⟩

theorem Moves.requests {limit : Nat} (h : Moves { limit } log c) :
    c.nextId = (requests log).length + 1 ∧
      (Session.requests log).map (·.id) = (List.range' 1 (Session.requests log).length).map nthId := by
  induction h with
  | none => exact ⟨rfl, rfl⟩
  | step _ hmove ih =>
      obtain ⟨hnext, hids⟩ := ih
      rw [requests_append]
      obtain ⟨hmore, hsame⟩ | ⟨request, hmore, hid, hsucc⟩ := hmove.requests
      · rw [hmore, List.append_nil, hsame]
        exact ⟨hnext, hids⟩
      · rw [hmore, List.length_append, List.length_singleton, List.map_append, hids, List.range'_1_concat,
          List.map_append, hsucc, hnext]
        refine ⟨rfl, ?_⟩
        rw [List.map_singleton, List.map_singleton, hid, hnext, Nat.add_comm]

theorem nthId_injective {m n : Nat} (hm : m < 2 ^ 63) (hn : n < 2 ^ 63) (h : nthId m = nthId n) : m = n := by
  have hint : (Int64.ofNat m).toInt = (Int64.ofNat n).toInt := congrArg Int64.toInt (RequestId.number.inj h)
  rw [Int64.toInt_ofNat_of_lt hm, Int64.toInt_ofNat_of_lt hn] at hint
  exact Int.ofNat.inj hint

theorem Moves.nodup_ids {limit : Nat} (h : Moves { limit } log c) (hfew : (Session.requests log).length < 2 ^ 63) :
    ((Session.requests log).map (·.id)).Nodup := by
  rw [h.requests.2]
  refine List.Nodup.map_on (fun m hm n hn heq => ?_) List.nodup_range'
  rw [List.mem_range'_1] at hm hn
  exact nthId_injective (by omega) (by omega) heq

/-! ### Sessions -/

/-- However the events fall: no two requests share an id. A request gets the value of the frame that was
read right before, so that no frame serves two, and which came after the request was written out and responds
to its id; and an answer rests on the value its caller got. So if every response holds the result of the
request with its id, the result of another request is never accepted, however late it comes. -/
theorem responses_matched (limit : Nat) (events : List Event)
    (hfew : (requests (sessionLog limit events)).length < 2 ^ 63) :
    ((requests (sessionLog limit events)).map (·.id)).Nodup ∧
      (∀ before t id value after, sessionLog limit events = before ++ .effect (.accept t id value) :: after →
        RightlyAccepted before t id value) ∧
      (∀ before t a after, sessionLog limit events = before ++ .effect (.answer t (.ok a)) :: after →
        a.Backed before t) ∧
      ∀ resultOf : Request → Json → Prop,
        (∀ frame id value, .event (.received frame) ∈ sessionLog limit events → Responds frame id value →
          ∀ request ∈ requests (sessionLog limit events), request.id = id → resultOf request value) →
        ∀ t id value, .effect (.accept t id value) ∈ sessionLog limit events →
          ∃ request, .effect (.arm t request) ∈ sessionLog limit events ∧ request.id = id ∧
            resultOf request value := by
  have hmoves := log_moves { limit } events
  refine ⟨hmoves.nodup_ids hfew, ?_, ?_, ?_⟩
  · intro before t id value after hlog
    exact hmoves.matchRule.at hlog
  · intro before t a after hlog
    exact hmoves.matchRule.at hlog
  · intro resultOf hpeer t id value hmem
    obtain ⟨before, after, hlog⟩ := List.append_of_mem hmem
    obtain ⟨earlier, frame, rfl, hresponds, request, harm, hid, hsent⟩ : RightlyAccepted before t id value :=
      hmoves.matchRule.at hlog
    have hframe : .event (.received frame) ∈ sessionLog limit events := by simp [hlog]
    have hstarted : .effect (.arm t request) ∈ sessionLog limit events := by simp [hlog, harm]
    refine ⟨request, hstarted, hid, hpeer frame id value hframe hresponds request ?_ hid⟩
    exact List.mem_filterMap.mpr ⟨_, hstarted, rfl⟩

/-- The response to a request whose time was up comes while the next request waits for its own. -/
def lateResponse : List Event :=
  [.ask 0 .ping, .written, .expired 0, .ask 1 .ping, .written,
    .received (Response.success (nthId 1) "late").toJson, .received (Response.success (nthId 2) "pong").toJson]

theorem responses_matched_sample :
    ((requests (sessionLog 100 lateResponse)).map (·.id)).Nodup ∧
      RightlyAccepted ((sessionLog 100 lateResponse).take 18) 1 (nthId 2) "pong" :=
  have h := responses_matched 100 lateResponse (by decide)
  ⟨h.1, h.2.1 _ _ _ _ ((sessionLog 100 lateResponse).drop 19) rfl⟩

end Colloquy.Session
