import Colloquy.Proofs.Session.Matching
import Colloquy.Proofs.Session.Traffic

/-! What an event comes to for whoever is first in line (`Client.Outcome`). Nothing or little happens and the wait
goes on, or the first is told how its request has ended and leaves, or its result has come and it stands in line
again with what is to be sent next. A step comes to nothing else (`Client.step_outcome`). -/

namespace Colloquy.Session

open Rpc

/-- The request for a page of tools; the first page has no cursor. -/
def pageRequest (n : Nat) (cursor : Option String) : Request :=
  { id := nthId n, method := Method.toolsList, params := cursor.map fun text => .obj [("cursor", .str text)] }

/-- What a caller is told at once when its result has come. -/
inductive Job.Settles (value : Json) : Job → AnswerResult → Prop where
  | unwelcome {fault : Decode.Fault} (hread : Welcome.decode value = .error fault) :
      Settles value .handshake (.error (.protocol fault.message))
  | unreadable {found : List ServerTool} {fault : Decode.Fault} (hread : ToolsPage.decode value = .error fault) :
      Settles value (.listing found) (.error (.protocol fault.message))
  | lastPage {found : List ServerTool} {page : ToolsPage} (hread : ToolsPage.decode value = .ok page)
      (hlast : page.following? = none) : Settles value (.listing found) (.ok (.tools (found ++ page.tools)))
  | single {job : Job} {result : AnswerResult} (hhandshake : job ≠ .handshake)
      (hlisting : ∀ found, job ≠ .listing found) : Settles value job result

namespace Client

inductive Outcome (c : Client) (first : Caller) : Event → Step → Prop where
  | pass {e : Event} : Outcome c first e (c, [])
  | skip {frame : Json} : Outcome c first (.received frame) (c, [.receive])
  | written (hwrites : c.activity.Writes)
      (hjob : c.activity = .writing → ∀ server, first.job ≠ .ready server) :
      Outcome c first .written ({ c with midFrame := false, activity := .reading }, [.receive])
  /-- A request of the peer is rejected. -/
  | reject {frame : Json} {r : Request} (hreading : c.activity = .reading)
      (hframe : classify frame = .ok (.request r)) :
      Outcome c first (.received frame)
        ({ c with activity := .rejecting, midFrame := true }, [.send (rejection r.id)])
  | fail {e : Event} {failure : SessionError} : Outcome c first e (c.leave [.answer first.ticket (.error failure)])
  | expire {failure : SessionError} :
      Outcome c first (.expired first.ticket) (c.leave [.abandon, .answer first.ticket (.error failure)])
  /-- The server was told that the handshake is over. -/
  | greeted {server : ServerInfo} (hjob : first.job = .ready server) :
      Outcome c first .written
        ({ c with midFrame := false }.leave [.answer first.ticket (.ok (.server server))])
  | settle {frame : Json} {id : RequestId} {value : Json} {result : AnswerResult}
      (haccepts : c.Accepts frame first id value) (hsettles : first.job.Settles value result) :
      Outcome c first (.received frame) (c.leave [.accept first.ticket id value, .answer first.ticket result])
  | greet {frame : Json} {id : RequestId} {value : Json} {welcome : Welcome}
      (haccepts : c.Accepts frame first id value) (hjob : first.job = .handshake)
      (hread : Welcome.decode value = .ok welcome) :
      Outcome c first (.received frame)
        (({ c with capabilities := some welcome.capabilities }.enqueueNotification first.ticket (.ready welcome.server)
          Method.ready).leave [.accept first.ticket id value])
  | turnPage {frame : Json} {id : RequestId} {value : Json} {found : List ServerTool} {page : ToolsPage}
      {cursor : String} (haccepts : c.Accepts frame first id value) (hjob : first.job = .listing found)
      (hread : ToolsPage.decode value = .ok page) (hmore : page.following? = some cursor) :
      Outcome c first (.received frame)
        ({ c with
            nextId := c.nextId + 1
            line := c.line ++
              [Caller.of first.ticket (.listing (found ++ page.tools)) (pageRequest c.nextId (some cursor))] }.leave
          [.accept first.ticket id value, .arm first.ticket (pageRequest c.nextId (some cursor))])
  | closed {e : Event} {result : AnswerResult} (hclosing : c.activity = .closing) :
      Outcome c first e (c.leave [.answer first.ticket result])

variable {c : Client} {first : Caller} {rest : List Caller}

theorem decoded_eq_error {α : Type} {read : Json → Decode.Result α} {value : Json} {failure : SessionError} :
    decoded read value = .error failure ↔ ∃ fault, read value = .error fault ∧ failure = .protocol fault.message := by
  unfold decoded
  cases read value with
  | ok a => simp
  | error fault => simp [eq_comm]

theorem proceed_outcome {frame : Json} {id : RequestId} {value : Json} (haccepts : c.Accepts frame first id value) :
    c.Outcome first (.received frame)
      ((c.proceed first value).1, .accept first.ticket id value :: (c.proceed first value).2) := by
  have hsettle {result : AnswerResult} (hsettles : first.job.Settles value result) :
      c.Outcome first (.received frame)
        ((c.finish first result).1, .accept first.ticket id value :: (c.finish first result).2) :=
    .settle haccepts hsettles
  have hsingle {result : AnswerResult} (hhandshake : first.job ≠ .handshake)
      (hlisting : ∀ found, first.job ≠ .listing found) : first.job.Settles value result := .single hhandshake hlisting
  unfold proceed
  split
  · next hjob =>
      split
      · next hread =>
          obtain ⟨fault, hfault, rfl⟩ := decoded_eq_error.mp hread
          exact hsettle (hjob ▸ .unwelcome hfault)
      · next welcome hread => exact .greet haccepts hjob (decoded_eq_ok.mp hread)
  · next found hjob =>
      split
      · next hread =>
          obtain ⟨fault, hfault, rfl⟩ := decoded_eq_error.mp hread
          exact hsettle (hjob ▸ .unreadable hfault)
      · next page hread =>
          dsimp only
          split
          · next hlast => exact hsettle (hjob ▸ .lastPage (decoded_eq_ok.mp hread) hlast)
          · next cursor hmore => exact .turnPage haccepts hjob (decoded_eq_ok.mp hread) hmore
  · next hjob => split <;> exact hsettle (hsingle (by simp [hjob]) (by simp [hjob]))
  · next hjob => exact hsettle (hsingle (by simp [hjob]) (by simp [hjob]))
  · next hjob => exact hsettle (hsingle (by simp [hjob]) (by simp [hjob]))
  · next hjob => exact hsettle (hsingle (by simp [hjob]) (by simp [hjob]))

theorem respond_outcome {frame : Json} {id : RequestId} {r : Response} (hreading : c.activity = .reading)
    (hfirst : c.line.head? = some first) (hrequest : first.request = some id)
    (hframe : classify frame = .ok (.response r)) (hid : r.id = some id) :
    c.Outcome first (.received frame) (c.respond first id r) := by
  unfold respond
  split
  · exact .fail
  · next value herror hresult => exact proceed_outcome ⟨hreading, hfirst, hrequest, r, hframe, hid, herror, hresult⟩
  · exact .fail

theorem read_outcome (frame : Json) (hreading : c.activity = .reading) (hfirst : c.line.head? = some first) :
    c.Outcome first (.received frame) (c.read first frame) := by
  unfold read
  split
  · exact .fail
  · next r hframe =>
      split
      · next id hrequest =>
          split
          · next hid => exact respond_outcome hreading hfirst hrequest hframe hid
          · exact .skip
      · exact .skip
  · exact .skip
  · next r hframe =>
      dsimp only
      unfold startFrame
      cases c.midFrame with
      | false => exact .reject hreading hframe
      | true => exact .fail

theorem wrote_outcome (hwriting : c.activity = .writing) : c.Outcome first .written (c.wrote first) := by
  unfold wrote
  dsimp only
  split
  · next hjob => exact .greeted hjob
  · next hjob => exact .written (hwriting ▸ trivial) fun _ => hjob

theorem expire_outcome (hline : c.line = first :: rest) :
    c.Outcome first (.expired first.ticket) (c.expire first.ticket) := by
  unfold expire
  split
  · exact .pass
  · rw [hline]
    simp only [beq_self_eq_true, if_true]
    exact .expire

/-- Whatever happens, but for somebody who turns up or leaves the line behind the first. -/
theorem step_outcome {e : Event} (hline : c.line = first :: rest) (hask : ∀ t wish, e ≠ .ask t wish)
    (hwithdrawn : ∀ tickets, e ≠ .withdrawn tickets) (hexpired : ∀ t, e = .expired t → t = first.ticket) :
    c.Outcome first e (c.step e) := by
  have hfirst : c.line.head? = some first := congrArg List.head? hline
  have hhead {caller : Caller} {others : List Caller} (h : c.line = caller :: others) : caller = first :=
    (List.cons.inj (h.symm.trans hline)).1
  unfold step
  split
  · exact absurd rfl (hask _ _)
  · rw [hexpired _ rfl]
    exact expire_outcome hline
  · exact absurd rfl (hwithdrawn _)
  · next hwriting h => exact hhead h ▸ wrote_outcome hwriting
  · next hrejecting _ => exact .written (hrejecting ▸ trivial) fun hwriting => nomatch hrejecting.symm.trans hwriting
  · next h => exact hhead h ▸ .fail
  · next h => exact hhead h ▸ .fail
  · next hreading h => exact hhead h ▸ read_outcome _ hreading (hhead h ▸ hfirst)
  · next h => exact hhead h ▸ .fail
  · next h => exact hhead h ▸ .fail
  · next hclosing h => exact hhead h ▸ .closed hclosing
  · next hclosing h => exact hhead h ▸ .closed hclosing
  · exact .pass

theorem leave_eq (hline : c.line.length ≤ 1) (told : List (Effect AnswerResult)) :
    c.leave told = ({ c with line := [], activity := .idle }, told) := by
  have htail : c.line.tail = [] := List.length_eq_zero_iff.mp (by rw [List.length_tail]; omega)
  unfold leave settle
  simp [htail, grant]

theorem step_of_nobody {e : Event} (hline : c.line = []) (hleft : ∀ t wish, e ≠ .ask t wish) : c.step e = (c, []) := by
  unfold step
  split
  · exact absurd rfl (hleft _ _)
  · simp [expire, hline]
  · simp [withdraw, hline]
  -- All that is left for is done for a first in line, but for the last case.
  all_goals simp_all

end Client

end Colloquy.Session
