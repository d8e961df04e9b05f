import Colloquy.Proofs.Session.Log

/-! What a client can do, as a relation of single moves (`Move`), each with what it leaves in the log. A
step is a sequence of moves (`step_moves`), and so is a run (`log_moves`): what holds of a new client and is
kept by every move holds after every list of events. -/

namespace Colloquy.Session

open Rpc

def Event.EndsWrite : Event → Prop
  | .written | .writeFailed _ => True
  | _ => False

def Activity.Writes : Activity → Prop
  | .writing | .rejecting => True
  | _ => False

/-- The frame is a response to the id, with the value as its result and no error. -/
def Responds (frame : Json) (id : RequestId) (value : Json) : Prop :=
  ∃ r, classify frame = .ok (.response r) ∧ r.id = some id ∧ r.error = none ∧ r.result = some value

/-- The answer that is given right away on a result. -/
def Answer.ReadFrom (value : Json) : Answer → Prop
  | .call result => CallResult.decode value = .ok result
  | .tools found => ∃ page, ToolsPage.decode value = .ok page ∧ page.tools <:+ found
  | .server _ => False
  | .done => True

/-- The first in line waits, and the frame brings the result of its request. -/
structure Client.Accepts (c : Client) (frame : Json) (first : Caller) (id : RequestId) (value : Json) : Prop where
  reading : c.activity = .reading
  isFirst : c.line.head? = some first
  request : first.request = some id
  responds : Responds frame id value

inductive Move : Client → Log → Client → Prop where
  /-- Something happens that is none of the client's business, or does not change it. -/
  | pass {c : Client} {e : Event} (hquiet : e.EndsWrite → c.activity.Writes → c.line = []) : Move c [.event e] c
  | receive {c : Client} : Move c [.effect .receive] c
  | fail {c : Client} {t : Nat} {e : SessionError} : Move c [.effect (.answer t (.error e))] c
  | join {c : Client} {t : Nat} {wish : Wish} {job : Job} {method : String} {params : Option Json}
      (hclose : job ≠ .close) (hready : ∀ server, job ≠ .ready server) :
      Move c (.event (.ask t wish) :: marks (c.enqueue t job method params).2) (c.enqueue t job method params).1
  /-- There is another page of tools; whoever goes through them stands in line again. -/
  | turnPage {c : Client} {first : Caller} {found more : List ServerTool} {method : String} {params : Option Json}
      (hfirst : c.line.head? = some first) (hjob : first.job = .listing found) :
      Move c (marks (c.enqueue first.ticket (.listing more) method params).2)
        (c.enqueue first.ticket (.listing more) method params).1
  | joinToClose {c : Client} {t : Nat} : Move c [.event (.ask t .close)] (c.enqueueClose t)
  /-- The first in line gets the session and starts writing. -/
  | begin {c : Client} {first : Caller} {rest : List Caller} (hidle : c.activity = .idle)
      (hline : c.line = first :: rest) (hjob : first.job ≠ .close) (hmid : c.midFrame = false) :
      Move c [.effect (.hold first.ticket), .effect (.send first.frame)]
        { c with activity := .writing, midFrame := true }
  /-- The first in line gets the session, which is of no use to it. -/
  | refuse {c : Client} {first : Caller} {rest : List Caller} (hidle : c.activity = .idle)
      (hline : c.line = first :: rest) (hjob : first.job ≠ .close) (hmid : c.midFrame = true) :
      Move c [.effect (.hold first.ticket), .effect (.answer first.ticket (.error .interrupted))]
        { c with line := rest }
  /-- The first in line gets the session and closes the transport. -/
  | close {c : Client} {first : Caller} {rest : List Caller} (hidle : c.activity = .idle)
      (hline : c.line = first :: rest) (hjob : first.job = .close) :
      Move c [.effect (.hold first.ticket), .effect .close] { c with activity := .closing }
  | written {c : Client} (hwrites : c.activity.Writes) :
      Move c [.event .written] { c with midFrame := false, activity := .reading }
  | writeFailed {c : Client} {reason : String} (hwrites : c.activity.Writes) :
      Move c [.event (.writeFailed reason)] { c with line := c.line.tail, activity := .idle }
  /-- A request of the peer has come and is being rejected. -/
  | reject {c : Client} {frame rejection : Json} (hreading : c.activity = .reading) (hmid : c.midFrame = false) :
      Move c [.event (.received frame), .effect (.send rejection)]
        { c with activity := .rejecting, midFrame := true }
  | accept {c : Client} {frame : Json} {first : Caller} {id : RequestId} {value : Json}
      (haccepts : c.Accepts frame first id value) :
      Move c [.event (.received frame), .effect (.accept first.ticket id value)] c
  | acceptAndAnswer {c : Client} {frame : Json} {first : Caller} {id : RequestId} {value : Json} {a : Answer}
      (haccepts : c.Accepts frame first id value) (hread : a.ReadFrom value) :
      Move c
        [.event (.received frame), .effect (.accept first.ticket id value), .effect (.answer first.ticket (.ok a))] c
  /-- The handshake is answered; its caller stands in line again to tell the server so. -/
  | acceptWelcome {c : Client} {frame : Json} {first : Caller} {id : RequestId} {value : Json} {welcome : Welcome}
      (haccepts : c.Accepts frame first id value) (hjob : first.job = .handshake)
      (hread : Welcome.decode value = .ok welcome) :
      Move c [.event (.received frame), .effect (.accept first.ticket id value)]
        ({ c with capabilities := some welcome.capabilities }.enqueueNotification first.ticket
          (.ready welcome.server) Method.ready)
  | welcome {c : Client} {first : Caller} {server : ServerInfo} (hreading : c.activity = .reading)
      (hfirst : c.line.head? = some first) (hjob : first.job = .ready server) :
      Move c [.effect (.answer first.ticket (.ok (.server server)))] c
  | closed {c : Client} {first : Caller} (hclosing : c.activity = .closing) (hfirst : c.line.head? = some first) :
      Move c [.effect (.answer first.ticket (.ok .done))] c
  | leave {c : Client} (hwrites : ¬c.activity.Writes) : Move c [] { c with line := c.line.tail, activity := .idle }
  /-- What the first in line was doing is given up, and it leaves. -/
  | abandon {c : Client} {rest : List Caller} (hrest : List.Sublist rest c.line.tail) :
      Move c [.effect .abandon] { c with line := rest, activity := .idle }
  /-- Callers that wait go away. -/
  | thin {c : Client} {rest : List Caller} (hrest : List.Sublist rest c.line) (hfirst : rest.head? = c.line.head?) :
      Move c [] { c with line := rest }

inductive Moves (c : Client) : Log → Client → Prop where
  | none : Moves c [] c
  | step {log more : Log} {c' c'' : Client} (hmoves : Moves c log c') (hmove : Move c' more c'') :
      Moves c (log ++ more) c''

namespace Moves

variable {c c' c'' : Client} {log more : Log}

theorem one (hmove : Move c log c') : Moves c log c' := Moves.none.step hmove

theorem trans (h : Moves c log c') (hmore : Moves c' more c'') : Moves c (log ++ more) c'' := by
  induction hmore with
  | none => rwa [List.append_nil]
  | step _ hmove ih =>
      rw [← List.append_assoc]
      exact ih.step hmove

/-! ### Giving the session on -/

theorem grant (c : Client) (line : List Caller) :
    Moves { c with line, activity := .idle } (marks (c.grant line).2) (c.grant line).1 := by
  -- `grant` goes by the callers it is handed and not by the line of `c`, which the moves start from.
  induction line with
  | nil => exact .none
  | cons first rest ih =>
      have hrefuse (hjob : first.job ≠ .close) (hmid : c.midFrame = true) :
          Moves { c with line := first :: rest, activity := .idle }
            (.effect (.hold first.ticket) :: .effect (.answer first.ticket (.error .interrupted)) ::
              marks (c.grant rest).2) (c.grant rest).1 := by
        have hmove : Move { c with line := first :: rest, activity := .idle }
            [.effect (.hold first.ticket), .effect (.answer first.ticket (.error .interrupted))]
            { c with line := rest, activity := .idle } := .refuse rfl rfl hjob hmid
        exact (one hmove).trans ih
      have hbegin (hjob : first.job ≠ .close) (hmid : c.midFrame = false) :
          Moves { c with line := first :: rest, activity := .idle }
            [.effect (.hold first.ticket), .effect (.send first.frame)]
            { c with line := first :: rest, activity := .writing, midFrame := true } :=
        one (.begin rfl rfl hjob hmid)
      cases hjob : first.job with
      | close =>
          simp only [Client.grant, hjob]
          exact one (.close rfl rfl hjob)
      | _ =>
          cases hmid : c.midFrame with
          | false => simpa [Client.grant, Client.startFrame, hjob, hmid] using hbegin (by simp [hjob]) hmid
          | true => simpa [Client.grant, Client.startFrame, hjob, hmid] using hrefuse (by simp [hjob]) hmid

theorem settle (h : Moves c log c') : Moves c (log ++ marks c'.settle.2) c'.settle.1 := by
  unfold Client.settle
  split
  · next hidle =>
      have hgrant := grant c' c'.line
      rw [← hidle] at hgrant
      exact h.trans hgrant
  · simpa using h

theorem leave {told : List (Effect AnswerResult)} (h : Moves c (log ++ marks told) c')
    (hwrites : ¬c'.activity.Writes) :
    Moves c (log ++ marks (c'.leave told).2) (c'.leave told).1 := by
  have hsettled := (h.step (.leave hwrites)).settle
  simpa [Client.leave] using hsettled

theorem finish_error (h : Moves c log c') (hwrites : ¬c'.activity.Writes) (first : Caller) (e : SessionError) :
    Moves c (log ++ marks (c'.finish first (.error e)).2) (c'.finish first (.error e)).1 :=
  (h.step .fail).leave hwrites

theorem finish_ok {a : Answer} {first : Caller} (h : Moves c (log ++ [.effect (.answer first.ticket (.ok a))]) c')
    (hwrites : ¬c'.activity.Writes) :
    Moves c (log ++ marks (c'.finish first (.ok a)).2) (c'.finish first (.ok a)).1 :=
  h.leave hwrites

end Moves

/-! ### Steps -/

namespace Client

variable {c : Client} {first : Caller}

theorem decoded_eq_ok {α : Type} {read : Json → Decode.Result α} {value : Json} {a : α} :
    decoded read value = .ok a ↔ read value = .ok a := by
  unfold decoded
  split
  · next h => rw [h, Except.ok.injEq, Except.ok.injEq]
  · next h => rw [h]; exact ⟨nofun, nofun⟩

theorem proceed_moves {frame : Json} {id : RequestId} {value : Json} (haccepts : c.Accepts frame first id value) :
    Moves c ([.event (.received frame), .effect (.accept first.ticket id value)] ++ marks (c.proceed first value).2)
      (c.proceed first value).1 := by
  have hwrites : ¬c.activity.Writes := haccepts.reading ▸ not_false
  have haccept := Moves.one (.accept haccepts)
  have hanswer {a : Answer} (hread : a.ReadFrom value) :
      Moves c
        ([.event (.received frame), .effect (.accept first.ticket id value)] ++ marks (c.finish first (.ok a)).2)
        (c.finish first (.ok a)).1 :=
    (Moves.one (.acceptAndAnswer haccepts hread)).finish_ok hwrites
  unfold proceed
  split
  · next hjob =>
      split
      · exact haccept.finish_error hwrites first _
      · next hwelcome => exact (Moves.one (.acceptWelcome haccepts hjob (decoded_eq_ok.mp hwelcome))).leave hwrites
  · next found hjob =>
      split
      · exact haccept.finish_error hwrites first _
      · next page hpage =>
          split
          · exact hanswer ⟨page, decoded_eq_ok.mp hpage, List.suffix_append _ _⟩
          · exact (haccept.step (.turnPage haccepts.isFirst hjob)).leave hwrites
  · split
    · exact haccept.finish_error hwrites first _
    · next hresult => exact hanswer (decoded_eq_ok.mp hresult)
  · exact hanswer trivial
  · next server hjob =>
      exact (haccept.step (.welcome haccepts.reading haccepts.isFirst hjob)).finish_ok hwrites
  · exact hanswer trivial

theorem respond_moves {frame : Json} {id : RequestId} {r : Response} (hreading : c.activity = .reading)
    (hfirst : c.line.head? = some first) (hrequest : first.request = some id)
    (hframe : classify frame = .ok (.response r)) (hid : r.id = some id) :
    Moves c (.event (.received frame) :: marks (c.respond first id r).2) (c.respond first id r).1 := by
  have hwrites : ¬c.activity.Writes := hreading ▸ not_false
  have hpass : Moves c [.event (.received frame)] c := .one (.pass nofun)
  unfold respond
  split
  · exact hpass.finish_error hwrites first _
  · next value herror hresult =>
      exact proceed_moves ⟨hreading, hfirst, hrequest, r, hframe, hid, herror, hresult⟩
  · exact hpass.finish_error hwrites first _

theorem read_moves {frame : Json} (hreading : c.activity = .reading) (hfirst : c.line.head? = some first) :
    Moves c (.event (.received frame) :: marks (c.read first frame).2) (c.read first frame).1 := by
  have hwrites : ¬c.activity.Writes := hreading ▸ not_false
  have hpass : Moves c [.event (.received frame)] c := .one (.pass nofun)
  have hreceive : Moves c [.event (.received frame), .effect .receive] c := hpass.step .receive
  unfold read
  split
  · exact hpass.finish_error hwrites first _
  · next r hframe =>
      split
      · next id hrequest =>
          split
          · next hid => exact respond_moves hreading hfirst hrequest hframe hid
          · exact hreceive
      · exact hreceive
  · exact hreceive
  · dsimp only
    split
    · next step hstart =>
        unfold startFrame at hstart
        split at hstart
        · cases hstart
        · next hmid =>
            cases hstart
            exact .one (.reject hreading (eq_false_of_ne_true hmid))
    · exact hpass.finish_error hwrites first _

theorem wrote_moves {rest : List Caller} (hwriting : c.activity = .writing) (hline : c.line = first :: rest) :
    Moves c (.event .written :: marks (c.wrote first).2) (c.wrote first).1 := by
  have hwrites : c.activity.Writes := hwriting ▸ trivial
  have hwritten : Moves c [.event .written] { c with midFrame := false, activity := .reading } :=
    .one (.written hwrites)
  unfold wrote
  dsimp only
  split
  · next server hjob =>
      have hwelcome := hwritten.step (.welcome rfl (congrArg List.head? hline) hjob)
      exact hwelcome.finish_ok not_false
  · exact hwritten.step .receive

theorem expire_moves (c : Client) (t : Nat) :
    Moves c (.event (.expired t) :: marks (c.expire t).2) (c.expire t).1 := by
  have hpass : Moves c [.event (.expired t)] c := .one (.pass nofun)
  unfold expire
  split
  · exact hpass
  · next caller hcaller =>
      dsimp only
      split
      · next first rest hline =>
          split
          · have habandon : Moves c [.event (.expired t), .effect .abandon]
                { c with line := c.line.tail, activity := .idle } := hpass.step (.abandon (List.Sublist.refl _))
            have hfail : Moves c
                ([.event (.expired t)] ++ marks [.abandon, .answer t (.error (.timeout caller.method c.limit))])
                { c with line := c.line.tail, activity := .idle } := habandon.step .fail
            exact hfail.settle
          · next hticket =>
              have hthin : Moves c [.event (.expired t)] { c with line := c.line.filter (·.ticket != t) } := by
                refine hpass.step (.thin List.filter_sublist ?_)
                rw [hline, List.filter_cons_of_pos (by simpa using hticket)]
                rfl
              exact hthin.step .fail
      · exact hpass

theorem withdraw_moves (c : Client) (tickets : List Nat) :
    Moves c (.event (.withdrawn tickets) :: marks (c.withdraw tickets).2) (c.withdraw tickets).1 := by
  have hpass : Moves c [.event (.withdrawn tickets)] c := .one (.pass nofun)
  unfold withdraw
  dsimp only
  split
  · next first rest hline =>
      split
      · next hticket =>
          refine (hpass.step (.abandon ?_)).settle
          rw [hline, List.filter_cons_of_neg (by simpa using hticket)]
          exact List.filter_sublist
      · next hticket =>
          refine hpass.step (.thin List.filter_sublist ?_)
          rw [hline, List.filter_cons_of_pos (by simpa using hticket)]
          rfl
  · exact hpass

theorem takeUp_moves (c : Client) (t : Nat) (wish : Wish) :
    Moves c (.event (.ask t wish) :: marks (c.takeUp t wish).2) (c.takeUp t wish).1 := by
  cases wish with
  | handshake name version => exact .one (.join (by simp) (by simp))
  | listTools => exact .one (.join (by simp) (by simp))
  | callTool name arguments => exact .one (.join (by simp) (by simp))
  | ping => exact .one (.join (by simp) (by simp))
  | close => exact .one .joinToClose

theorem writeFailed_moves (hwrites : c.activity.Writes) (first : Caller) (reason : String) (e : SessionError) :
    Moves c (.event (.writeFailed reason) :: marks (c.finish first (.error e)).2) (c.finish first (.error e)).1 := by
  have hfailed : Moves c [.event (.writeFailed reason)] { c with line := c.line.tail, activity := .idle } :=
    .one (.writeFailed hwrites)
  have hfail : Moves c [.event (.writeFailed reason), .effect (.answer first.ticket (.error e))]
      { c with line := c.line.tail, activity := .idle } := hfailed.step .fail
  exact hfail.settle

theorem step_moves (c : Client) (e : Event) : Moves c (.event e :: marks (c.step e).2) (c.step e).1 := by
  have hfinish (hends : ¬e.EndsWrite) (hwrites : ¬c.activity.Writes) (first : Caller) (failure : SessionError) :
      Moves c (.event e :: marks (c.finish first (.error failure)).2) (c.finish first (.error failure)).1 :=
    (Moves.one (.pass fun h => absurd h hends)).finish_error hwrites first failure
  unfold step
  split
  · next t wish =>
      have hsettled := (takeUp_moves c t wish).settle
      simpa using hsettled
  · exact expire_moves c _
  · exact withdraw_moves c _
  · next hwriting hline => exact wrote_moves hwriting hline
  · next hrejecting _ =>
      have hwritten : Moves c [.event .written] { c with midFrame := false, activity := .reading } :=
        .one (.written (hrejecting ▸ trivial))
      exact hwritten.step .receive
  · next hwriting _ => exact writeFailed_moves (hwriting ▸ trivial) _ _ _
  · next hrejecting _ => exact writeFailed_moves (hrejecting ▸ trivial) _ _ _
  · next hreading hline => exact read_moves hreading (congrArg List.head? hline)
  · next hreading _ => exact hfinish not_false (hreading ▸ not_false) _ _
  · next hreading _ => exact hfinish not_false (hreading ▸ not_false) _ _
  · next hclosing hline =>
      have hpass : Moves c [.event .closed] c := .one (.pass nofun)
      exact (hpass.step (.closed hclosing (congrArg List.head? hline))).finish_ok (hclosing ▸ not_false)
  · next hclosing _ => exact hfinish not_false (hclosing ▸ not_false) _ _
  · next hwriting hrejecting hfailed hfailedRejecting _ _ _ _ _ =>
      -- The end of a write is passed over only when nobody is in line.
      refine .one (.pass fun hends hwrites => ?_)
      cases hline : c.line with
      | nil => rfl
      | cons first rest =>
          unfold Activity.Writes at hwrites
          unfold Event.EndsWrite at hends
          split at hwrites
          · next hactivity =>
              split at hends
              · exact (hwriting _ _ rfl hactivity hline).elim
              · exact (hfailed _ _ _ rfl hactivity hline).elim
              · exact hends.elim
          · next hactivity =>
              split at hends
              · exact (hrejecting _ _ rfl hactivity hline).elim
              · exact (hfailedRejecting _ _ _ rfl hactivity hline).elim
              · exact hends.elim
          · exact hwrites.elim

end Client

/-! ### Runs -/

theorem log_moves (c : Client) (events : List Event) : Moves c (c.log events) (c.run events).1 := by
  induction events generalizing c with
  | nil => exact .none
  | cons e events ih => exact (Client.step_moves c e).trans (ih _)

end Colloquy.Session
