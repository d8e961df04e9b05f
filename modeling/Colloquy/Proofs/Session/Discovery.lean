import Colloquy.Proofs.Rpc.Codec
import Colloquy.Proofs.Session.Paging

/-! The tools of a server. A caller that is alone with the server gets every page that the server sends, among whatever
other frames (`Client.run_turned`), and the tools of all of them in the end; the first page that fails is the last one
that is asked for (`PageFails`). This, and what holds for a caller in any company, is `tools_listed`. -/

namespace Colloquy.Session

open Rpc

/-- What the server sends until a page is there: frames that have nothing to do with it, then the response. -/
structure PageTurn where
  traffic : List Json
  frame : Json
  value : Json
  page : ToolsPage

namespace PageTurn

structure Answers (p : PageTurn) (id : RequestId) : Prop where
  traffic : ∀ frame ∈ p.traffic, PassedOver id frame
  frame : Responds p.frame id p.value
  value : ToolsPage.decode p.value = .ok p.page

def events (p : PageTurn) : List Event := .written :: p.traffic.flatMap arrival ++ [.received p.frame]

def effects (p : PageTurn) (t n : Nat) : List (Effect AnswerResult) :=
  .receive :: p.traffic.flatMap reaction ++ [.accept t (nthId n) p.value]

end PageTurn

/-- The pages answer the requests from the `n`th on, and each of them has a cursor. -/
inductive Turned : Nat → List PageTurn → Prop where
  | none {n : Nat} : Turned n []
  | next {n : Nat} {p : PageTurn} {pages : List PageTurn} {cursor : String} (hanswers : p.Answers (nthId n))
      (hmore : p.page.nextCursor = some cursor) (hcursor : cursor ≠ "") (hrest : Turned (n + 1) pages) :
      Turned n (p :: pages)

/-- A request starts and is sent at once. -/
def opened (t n : Nat) (cursor : Option String) : List (Effect AnswerResult) :=
  [.arm t (pageRequest n cursor), .hold t, .send (pageRequest n cursor).toJson.sorted]

def turned (t n : Nat) : List PageTurn → List (Effect AnswerResult)
  | [] => []
  | p :: pages => p.effects t n ++ opened t (n + 1) p.page.nextCursor ++ turned t (n + 1) pages

def toolsOf (pages : List PageTurn) : List ServerTool := pages.flatMap (·.page.tools)

/-- The cursor that the last page has told. -/
def cursorAfter (cursor : Option String) (pages : List PageTurn) : Option String :=
  pages.foldl (fun _ p => p.page.nextCursor) cursor

def Client.paging (c : Client) (t n : Nat) (cursor : Option String) (found : List ServerTool) (activity : Activity)
    (midFrame : Bool) : Client :=
  { c with
    nextId := n + 1, midFrame, activity
    line := [.of t (.listing found) (pageRequest n cursor)] }

theorem Client.paging_serving (c : Client) (t n : Nat) (cursor : Option String) (found : List ServerTool)
    (activity : Activity) (midFrame : Bool) :
    (c.paging t n cursor found activity midFrame).Serving (.of t (.listing found) (pageRequest n cursor)) activity
      midFrame :=
  ⟨rfl, rfl, rfl⟩

variable {t n : Nat} {cursor : Option String} {found : List ServerTool} {c : Client} {e : Event}

theorem Client.run_arrival {frame : Json} (hframe : PassedOver (nthId n) frame) :
    (c.paging t n cursor found .reading false).run (arrival frame) =
      (c.paging t n cursor found .reading false, reaction frame) := by
  have hserving := c.paging_serving t n cursor found .reading false
  obtain ⟨m, hm, hother⟩ := hframe
  have hskip (hrequest : ∀ r, m ≠ .request r) :
      (c.paging t n cursor found .reading false).run [.received frame] =
        (c.paging t n cursor found .reading false, [.receive]) := by
    rw [run_cons, hserving.step_skipped rfl hm hrequest hother]
    rfl
  unfold arrival reaction
  rw [hm]
  cases m with
  | notification note => exact hskip nofun
  | response r => exact hskip nofun
  | request r =>
      have hrejecting := c.paging_serving t n cursor found .rejecting true
      have hrejected : (c.paging t n cursor found .rejecting true).step .written =
          (c.paging t n cursor found .reading false, [.receive]) := hrejecting.step_rejected
      have hrequest : (c.paging t n cursor found .reading false).step (.received frame) =
          (c.paging t n cursor found .rejecting true, [.send (rejection r.id)]) := hserving.step_request hm
      rw [run_cons, hrequest, run_cons, hrejected]
      rfl

theorem Client.run_traffic {frames : List Json} (hframes : ∀ frame ∈ frames, PassedOver (nthId n) frame) :
    (c.paging t n cursor found .reading false).run (frames.flatMap arrival) =
      (c.paging t n cursor found .reading false, frames.flatMap reaction) := by
  induction frames with
  | nil => rfl
  | cons frame frames ih =>
      obtain ⟨hframe, hframes⟩ := List.forall_mem_cons.mp hframes
      rw [List.flatMap_cons, run_append, run_arrival hframe, ih hframes]
      rfl

/-- How far the wait for a page may have come. -/
inductive Underway (n : Nat) : List Event → Activity → Bool → List (Effect AnswerResult) → Prop where
  | writing : Underway n [] .writing true []
  | reading {traffic : List Json} (htraffic : ∀ frame ∈ traffic, PassedOver (nthId n) frame) :
      Underway n (.written :: traffic.flatMap arrival) .reading false (.receive :: traffic.flatMap reaction)
  | rejecting {traffic : List Json} {frame : Json} {r : Request}
      (htraffic : ∀ frame ∈ traffic, PassedOver (nthId n) frame) (hframe : classify frame = .ok (.request r)) :
      Underway n (.written :: traffic.flatMap arrival ++ [.received frame]) .rejecting true
        (.receive :: traffic.flatMap reaction ++ [.send (rejection r.id)])

theorem Client.run_underway {events : List Event} {activity : Activity} {midFrame : Bool}
    {effects : List (Effect AnswerResult)} (h : Underway n events activity midFrame effects) :
    (c.paging t n cursor found .writing true).run events = (c.paging t n cursor found activity midFrame, effects) := by
  have hwritten : (c.paging t n cursor found .writing true).step .written =
      (c.paging t n cursor found .reading false, [.receive]) :=
    (c.paging_serving t n cursor found .writing true).step_written ⟨nofun, nofun⟩
  have hreading {traffic : List Json} (htraffic : ∀ frame ∈ traffic, PassedOver (nthId n) frame) :
      (c.paging t n cursor found .writing true).run (.written :: traffic.flatMap arrival) =
        (c.paging t n cursor found .reading false, .receive :: traffic.flatMap reaction) := by
    rw [run_cons, hwritten, run_traffic htraffic]
    rfl
  cases h with
  | writing => rfl
  | reading htraffic => exact hreading htraffic
  | @rejecting traffic frame r htraffic hframe =>
      have hrequest : (c.paging t n cursor found .reading false).step (.received frame) =
          (c.paging t n cursor found .rejecting true, [.send (rejection r.id)]) :=
        (c.paging_serving t n cursor found .reading false).step_request hframe
      rw [run_append, hreading htraffic, run_cons, hrequest]
      rfl

/-! ### Pages that come -/

/-- The client after a page, when the caller has left. -/
def Client.left (c : Client) (n : Nat) (midFrame : Bool) : Client :=
  { c with nextId := n + 1, line := [], activity := .idle, midFrame }

theorem Client.paging_leave (activity : Activity) (midFrame : Bool) (effects : List (Effect AnswerResult)) :
    (c.paging t n cursor found activity midFrame).leave effects = (c.left n midFrame, effects) :=
  leave_eq (c := c.paging t n cursor found activity midFrame) (Nat.le_refl 1) effects

theorem Client.step_page {frame value : Json} {s : Step} {midFrame : Bool} (hframe : Responds frame (nthId n) value)
    (hproceed : (c.paging t n cursor found .reading midFrame).proceed (.of t (.listing found) (pageRequest n cursor))
      value = s) :
    (c.paging t n cursor found .reading midFrame).step (.received frame) =
      (s.1, .accept t (nthId n) value :: s.2) := by
  obtain ⟨r, hr, hid, herror, hresult⟩ := hframe
  rw [(c.paging_serving t n cursor found .reading midFrame).step_response rfl hr hid]
  simp only [respond, herror, hresult, hproceed]
  rfl

/-- The page has a cursor: the next one is asked for at once. -/
theorem Client.proceed_turned {value : Json} {page : ToolsPage} {next : String}
    (hread : ToolsPage.decode value = .ok page) (hmore : page.following? = some next) :
    (c.paging t n cursor found .reading false).proceed (.of t (.listing found) (pageRequest n cursor)) value =
      (c.paging t (n + 1) (some next) (found ++ page.tools) .writing true, opened t (n + 1) (some next)) := by
  have hdecoded : decoded ToolsPage.decode value = .ok page := decoded_eq_ok.mpr hread
  simp only [proceed, Caller.of, hdecoded, hmore]
  rfl

theorem Client.proceed_ended {value : Json} {page : ToolsPage} (hread : ToolsPage.decode value = .ok page)
    (hlast : page.following? = none) :
    (c.paging t n cursor found .reading false).proceed (.of t (.listing found) (pageRequest n cursor)) value =
      (c.left n false, [.answer t (.ok (.tools (found ++ page.tools)))]) := by
  have hdecoded : decoded ToolsPage.decode value = .ok page := decoded_eq_ok.mpr hread
  simp only [proceed, Caller.of, hdecoded, hlast, finish]
  exact paging_leave .reading false _

theorem Client.run_turn {p : PageTurn} {s : Step} (hanswers : p.Answers (nthId n))
    (hproceed : (c.paging t n cursor found .reading false).proceed (.of t (.listing found) (pageRequest n cursor))
      p.value = s) :
    (c.paging t n cursor found .writing true).run p.events = (s.1, p.effects t n ++ s.2) := by
  rw [PageTurn.events, run_append, run_underway (.reading hanswers.traffic), run_cons,
    step_page hanswers.frame hproceed]
  simp [PageTurn.effects, run]

theorem Client.run_turned {pages : List PageTurn} (h : Turned n pages) :
    (c.paging t n cursor found .writing true).run (pages.flatMap PageTurn.events) =
      (c.paging t (n + pages.length) (cursorAfter cursor pages) (found ++ toolsOf pages) .writing true,
        turned t n pages) := by
  -- Each page leaves the client as it was, but for the number, the cursor and what was found.
  induction h generalizing cursor found with
  | none => simp [run, toolsOf, cursorAfter, turned]
  | @next n p pages next hanswers hmore hcursor hrest ih =>
      have hfollowing : p.page.following? = some next := ToolsPage.following?_eq_some.mpr ⟨hmore, hcursor⟩
      rw [List.flatMap_cons, run_append, run_turn hanswers (proceed_turned hanswers.value hfollowing), ih]
      simp [toolsOf, cursorAfter, turned, hmore, Nat.add_assoc, Nat.add_comm 1]

/-! ### Pages that fail -/

/-- What makes the request for a page fail, what is done then before the caller is told, and what it is told. -/
inductive PageFails (t limit n : Nat) : Activity → Event → List (Effect AnswerResult) → SessionError → Prop where
  | timeout {activity : Activity} :
      PageFails t limit n activity (.expired t) [.abandon] (.timeout Method.toolsList limit)
  | writeFailed {activity : Activity} {reason : String} (hwrites : activity.Writes) :
      PageFails t limit n activity (.writeFailed reason) [] (.transport reason)
  | receiveFailed {reason : String} : PageFails t limit n .reading (.receiveFailed reason) [] (.transport reason)
  | ended : PageFails t limit n .reading .ended [] .connectionClosed
  | unclear {frame : Json} {fault : Decode.Fault} (hframe : classify frame = .error fault) :
      PageFails t limit n .reading (.received frame) [] (.protocol fault.message)
  | refused {frame : Json} {r : Response} {e : RpcError} (hframe : classify frame = .ok (.response r))
      (hid : r.id = some (nthId n)) (herror : r.error = some e) :
      PageFails t limit n .reading (.received frame) [] (.server e.code e.message)
  | empty {frame : Json} {r : Response} (hframe : classify frame = .ok (.response r)) (hid : r.id = some (nthId n))
      (herror : r.error = none) (hresult : r.result = none) :
      PageFails t limit n .reading (.received frame) [] (.protocol "Empty response")
  | unreadable {frame value : Json} {fault : Decode.Fault} (hframe : Responds frame (nthId n) value)
      (hread : ToolsPage.decode value = .error fault) :
      PageFails t limit n .reading (.received frame) [.accept t (nthId n) value] (.protocol fault.message)

theorem Client.step_fails {activity : Activity} {midFrame : Bool} {effects : List (Effect AnswerResult)}
    {failure : SessionError} (h : PageFails t c.limit n activity e effects failure) :
    (c.paging t n cursor found activity midFrame).step e =
      (c.left n midFrame, effects ++ [.answer t (.error failure)]) := by
  have hserving := c.paging_serving t n cursor found activity midFrame
  have hfinish (result : AnswerResult) : (c.paging t n cursor found activity midFrame).finish
      (.of t (.listing found) (pageRequest n cursor)) result = (c.left n midFrame, [.answer t result]) :=
    paging_leave activity midFrame _
  cases h with
  | timeout =>
      have hexpired : (c.paging t n cursor found activity midFrame).step (.expired t) =
          (c.paging t n cursor found activity midFrame).leave
            [.abandon, .answer t (.error (.timeout Method.toolsList c.limit))] := by
        simp [step, expire, paging, Caller.of, pageRequest]
      rw [hexpired, paging_leave]
      rfl
  | @writeFailed _ reason hwrites =>
      have hfailed : (c.paging t n cursor found activity midFrame).step (.writeFailed reason) =
          (c.paging t n cursor found activity midFrame).finish (.of t (.listing found) (pageRequest n cursor))
            (.error (.transport reason)) := by
        cases activity with
        | writing => rfl
        | rejecting => rfl
        | _ => exact hwrites.elim
      rw [hfailed, hfinish]
      rfl
  | receiveFailed => exact hfinish _
  | ended => exact hfinish _
  | unclear hframe =>
      rw [hserving.step_unreadable hframe, hfinish]
      rfl
  | refused hframe hid herror =>
      rw [hserving.step_response rfl hframe hid]
      simp only [respond, herror, hfinish]
      rfl
  | empty hframe hid herror hresult =>
      rw [hserving.step_response rfl hframe hid]
      simp only [respond, herror, hresult, hfinish]
      rfl
  | @unreadable frame value fault hframe hread =>
      have hdecoded : decoded ToolsPage.decode value = .error (.protocol fault.message) :=
        decoded_eq_error.mpr ⟨fault, hread, rfl⟩
      have hproceed : (c.paging t n cursor found .reading midFrame).proceed
          (.of t (.listing found) (pageRequest n cursor)) value =
            (c.left n midFrame, [.answer t (.error (.protocol fault.message))]) := by
        simp only [proceed, Caller.of, hdecoded]
        exact hfinish (.error (.protocol fault.message))
      exact step_page hframe hproceed

/-! ### The tools of a server -/

/-- A client that was new once. -/
def Client.Reached (c : Client) : Prop := ∃ limit events, (run { limit } events).1 = c

/-- What becomes of the wish to list the tools. -/
structure Client.ListsTools (c : Client) (t : Nat) : Prop where
  /-- Whatever happens and whoever else is there, the pages are gone through one by one. -/
  course : ∀ es, (∀ wish, .ask t wish ∉ es) →
    ∃ more, toldTo t (c.run (.ask t .listTools :: es)).2 = .arm t (pageRequest c.nextId none) :: more ∧
      Pages t (c.run (.ask t .listTools :: es)).1.nextId c.nextId [] more
  /-- The ids go up, as long as there are any left. -/
  ids : ∀ es, (∀ wish, .ask t wish ∉ es) → (c.run (.ask t .listTools :: es)).1.nextId ≤ 2 ^ 63 →
    ∃ ids : List Int64,
      (requests (marks (toldTo t (c.run (.ask t .listTools :: es)).2))).map (·.id) = ids.map RequestId.number ∧
        ids.Pairwise (· < ·)
  /-- If nobody else is there, the caller gets the tools of all pages as soon as the last one has come. -/
  complete : c.line = [] → c.midFrame = false → ∀ pages last, Turned c.nextId pages →
    last.Answers (nthId (c.nextId + pages.length)) → (∀ cursor, last.page.nextCursor = some cursor → cursor = "") →
      c.run (.ask t .listTools :: (pages ++ [last]).flatMap PageTurn.events) =
        (c.left (c.nextId + pages.length) false,
          opened t c.nextId none ++ turned t c.nextId pages ++ last.effects t (c.nextId + pages.length) ++
            [.answer t (.ok (.tools (toolsOf (pages ++ [last]))))])
  /-- The first page that fails is the last one that was asked for. -/
  failed : c.line = [] → c.midFrame = false → ∀ pages, Turned c.nextId pages →
    ∀ events activity midFrame effects, Underway (c.nextId + pages.length) events activity midFrame effects →
      ∀ e told failure, PageFails t c.limit (c.nextId + pages.length) activity e told failure →
        c.run (.ask t .listTools :: pages.flatMap PageTurn.events ++ events ++ [e]) =
          (c.left (c.nextId + pages.length) midFrame,
            opened t c.nextId none ++ turned t c.nextId pages ++ effects ++ told ++ [.answer t (.error failure)])

theorem Client.step_listTools (hline : c.line = []) (hidle : c.activity = .idle) (hwhole : c.midFrame = false)
    (t : Nat) : c.step (.ask t .listTools) = (c.paging t c.nextId none [] .writing true, opened t c.nextId none) := by
  simp [step, takeUp, enqueue, settle, grant, startFrame, paging, opened, pageRequest, Caller.of, nthId, hline, hidle,
    hwhole]

theorem tools_listed {c : Client} (hc : c.Reached) {t : Nat} (hnew : ∀ caller ∈ c.line, caller.ticket ≠ t) :
    c.ListsTools t := by
  obtain ⟨limit, earlier, rfl⟩ := hc
  have hmoves := log_moves { limit } earlier
  generalize (Client.run { limit } earlier).1 = c at hnew hmoves
  have habsent : placesOf t c.line = [] :=
    List.filter_eq_nil_iff.mpr fun caller hmem heq => hnew caller hmem (eq_of_beq heq)
  have hturned (hline : c.line = []) (hwhole : c.midFrame = false) {pages : List PageTurn}
      (hpages : Turned c.nextId pages) :
      c.run (.ask t .listTools :: pages.flatMap PageTurn.events) =
        (c.paging t (c.nextId + pages.length) (cursorAfter none pages) (toolsOf pages) .writing true,
          opened t c.nextId none ++ turned t c.nextId pages) := by
    have hstanding := hmoves.standing
    rw [hline] at hstanding
    rw [Client.run_cons, Client.step_listTools hline hstanding.idle_of_nobody hwhole, Client.run_turned hpages,
      List.nil_append]
  refine ⟨fun es hask => Client.ask_pages hmoves habsent hask, fun es hask htop => ?_, ?_, ?_⟩
  · obtain ⟨more, htold, hpages⟩ := Client.ask_pages hmoves habsent hask
    obtain ⟨numbers, hids, hsorted, hbelow⟩ := hpages.numbers
    have hfirst : c.nextId < (c.run (.ask t .listTools :: es)).1.nextId :=
      Nat.lt_of_lt_of_le (c.nextId_lt_listTools t) (Client.nextId_le_run _ es)
    have hall : ∀ m ∈ c.nextId :: numbers, m < 2 ^ 63 := by
      intro m hm
      obtain rfl | hm := List.mem_cons.mp hm
      · exact Nat.lt_of_lt_of_le hfirst htop
      · exact Nat.lt_of_lt_of_le (hbelow m hm) htop
    refine ⟨(c.nextId :: numbers).map Int64.ofNat, ?_, ?_⟩
    · rw [htold, List.map_map]
      exact congrArg (nthId c.nextId :: ·) hids
    · rw [List.pairwise_map]
      exact hsorted.imp_of_mem fun _ hm hlt => int64_ofNat_lt hlt (hall _ hm)
  · intro hline hwhole pages last hpages hlast hcursor
    have hnone : last.page.following? = none := ToolsPage.following?_eq_none.mpr hcursor
    rw [List.flatMap_append, ← List.cons_append, Client.run_append, hturned hline hwhole hpages, List.flatMap_cons,
      List.flatMap_nil, List.append_nil, Client.run_turn hlast (Client.proceed_ended hlast.value hnone)]
    simp [toolsOf]
  · intro hline hwhole pages hpages events activity midFrame effects hunderway e told failure hfails
    rw [Client.run_append, Client.run_append, hturned hline hwhole hpages, Client.run_underway hunderway,
      Client.run_cons, Client.step_fails hfails]
    simp [Client.run]

/-- A page with a cursor, and what comes before it. -/
def firstPage : PageTurn where
  traffic := [(Notification.toJson { method := "log" }), (Request.toJson { id := nthId 1, method := "roots/list" })]
  frame := (Response.success (nthId 1) (.obj [("tools", .arr [.obj [("name", "a")]]), ("nextCursor", "p2")])).toJson
  value := .obj [("tools", .arr [.obj [("name", "a")]]), ("nextCursor", "p2")]
  page := ⟨[⟨"a", "", emptyObjectSchema⟩], some "p2"⟩

/-- The last page; its cursor is empty. -/
def lastPage : PageTurn where
  traffic := [(Response.success (nthId 1) "late").toJson]
  frame := (Response.success (nthId 2) (.obj [("tools", .arr [.obj [("name", "b")]]), ("nextCursor", "")])).toJson
  value := .obj [("tools", .arr [.obj [("name", "b")]]), ("nextCursor", "")]
  page := ⟨[⟨"b", "", emptyObjectSchema⟩], some ""⟩

theorem tools_listed_sample :
    (Client.run { limit := 100 } (.ask 0 .listTools :: ([firstPage] ++ [lastPage]).flatMap PageTurn.events)).2 =
      opened 0 1 none ++
        [.receive, .receive, .send (rejection (nthId 1)), .receive, .accept 0 (nthId 1) firstPage.value] ++
        opened 0 2 (some "p2") ++ [.receive, .receive, .accept 0 (nthId 2) lastPage.value] ++
        [.answer 0 (.ok (.tools [⟨"a", "", emptyObjectSchema⟩, ⟨"b", "", emptyObjectSchema⟩]))] := by
  have hfirst : firstPage.Answers (nthId 1) := by
    refine ⟨?_, ⟨_, rfl, rfl, rfl, rfl⟩, rfl⟩
    simp only [firstPage, List.forall_mem_cons]
    exact ⟨⟨_, rfl, nofun⟩, ⟨_, rfl, nofun⟩, nofun⟩
  have hlast : lastPage.Answers (nthId 2) := by
    refine ⟨?_, ⟨_, rfl, rfl, rfl, rfl⟩, rfl⟩
    simp only [lastPage, List.forall_mem_cons]
    exact ⟨⟨_, rfl, fun r hr => by cases hr; decide⟩, nofun⟩
  have h := (tools_listed ⟨100, [], rfl⟩ (t := 0) nofun).complete rfl rfl [firstPage] lastPage
    (.next hfirst rfl (by decide) .none) hlast fun cursor hcursor => (Option.some.inj hcursor).symm
  exact congrArg Prod.snd h

end Colloquy.Session
