import Colloquy.Server.Serve
import Colloquy.Proofs.Json.Compact
import Colloquy.Proofs.Text.Lines

/-! What a server writes, whatever it is sent. Every line is answered by what it holds (`AnswersLine`), in order, up
to the first one that is no text (`Answers`); that is so for any stream, in whatever pieces it comes, and for any
handler, with whatever state (`serve_answers`). -/

namespace Colloquy.Server

open Rpc Text

variable {σ : Type}

/-! ### What a line is answered with -/

/-- What the `method` and the `id` of a frame announce it as. -/
inductive FrameKind where
  | request
  | notification
  | response
deriving DecidableEq

def frameKind (frame : Json) : FrameKind :=
  match frame.get? "method", frame.get? "id" with
  | none, _ => .response
  | some _, none | some _, some .null => .notification
  | some _, some _ => .request

/-- The frame can be read as what it is announced as. -/
def FrameKind.Fits (frame : Json) : FrameKind → Prop
  | .request => ∃ r, Request.decode frame = .ok r
  | .notification => ∃ n, Notification.decode frame = .ok n
  | .response => ∃ r, Response.decode frame = .ok r

/-- The answer to a line that is no request, and should be nothing else either. -/
def complaint (code : Int) (message : String) : Json :=
  .obj [("jsonrpc", "2.0"), ("id", .null), ("error", .obj [("code", .int code), ("message", message)])]

/-- The result of a call that came to a text. -/
def textResult (text : String) (isError : Bool) : Json :=
  .obj [("content", .arr [.obj [("text", text), ("type", "text")]]), ("isError", isError)]

/-- The frame asks for a call of the tool. -/
structure Calls (frame : Json) (name : String) (arguments : Json) : Prop where
  method : frame.get? "method" = some "tools/call"
  name : (frame.get "params").get? "name" = some (.str name)
  arguments : ((frame.get "params").get? "arguments").getD (.obj []) = arguments

/-- A call that fails has a result too. -/
def outcomeResult : Except String Json → Json
  | .ok payload => textResult payload.payloadText false
  | .error reason => textResult reason true

/-- The reply answers the request in the frame. The handler's states before and after stand around it. -/
structure AnswersRequest (h : Handler (StateM σ)) (frame : Json) (s : σ) (reply : Json) (s' : σ) : Prop where
  id : reply.get? "id" = frame.get? "id"
  either : (reply.get? "result").isSome = !(reply.get? "error").isSome
  called : ∀ name arguments, Calls frame name arguments → ∃ outcome, (h.call name arguments).run s = (outcome, s') ∧
    reply.get? "result" = some (outcomeResult outcome)

/-- A line of text is answered with the reply, or not at all. -/
inductive AnswersLine (h : Handler (StateM σ)) (line : String) (s : σ) : Option Json → σ → Prop where
  | blank (hblank : isAllBlank line = true) : AnswersLine h line s none s
  | unreadable {fault : Json.ReadFault} (hblank : isAllBlank line = false) (hread : Json.read line = .error fault) :
      AnswersLine h line s (some (complaint (-32700) "Parse error")) s
  | misfit {frame : Json} (hblank : isAllBlank line = false) (hread : Json.read line = .ok frame)
      (hfits : ¬(frameKind frame).Fits frame) : AnswersLine h line s (some (complaint (-32600) "Invalid request")) s
  | unanswered {frame : Json} (hblank : isAllBlank line = false) (hread : Json.read line = .ok frame)
      (hfits : (frameKind frame).Fits frame) (hkind : frameKind frame ≠ .request) : AnswersLine h line s none s
  | answered {frame reply : Json} {s' : σ} (hblank : isAllBlank line = false) (hread : Json.read line = .ok frame)
      (hfits : (frameKind frame).Fits frame) (hkind : frameKind frame = .request)
      (hreply : AnswersRequest h frame s reply s') : AnswersLine h line s (some reply) s'

/-- The lines of a stream are answered in order, up to the first that is no text. -/
inductive Answers (h : Handler (StateM σ)) : List Bytes → σ → List (Option Json) → Option Utf8Fault → σ → Prop where
  | done {s : σ} : Answers h [] s [] none s
  | stopped {line : Bytes} {rest : List Bytes} {s : σ} {fault : Utf8Fault} (hline : ∀ text, utf8Bytes text ≠ line) :
      Answers h (line :: rest) s [] (some fault) s
  | next {text : String} {rest : List Bytes} {s s₁ s₂ : σ} {reply : Option Json} {replies : List (Option Json)}
      {fault : Option Utf8Fault} (hline : AnswersLine h text s reply s₁) (hrest : Answers h rest s₁ replies fault s₂) :
      Answers h (utf8Bytes text :: rest) s (reply :: replies) fault s₂

/-! ### Requests -/

variable {h : Handler (StateM σ)} {who : Identity} {frame : Json} {r : Request} {s s' : σ}

theorem outcomeResult_eq (outcome : Except String Json) :
    (callResult outcome).toJson.sorted = outcomeResult outcome := by
  cases outcome <;> rfl

theorem Calls.callParams? {name : String} {arguments : Json} (hcalls : Calls frame name arguments)
    (hparams : r.params = (frame.get? "params").bind Json.present?) :
    callParams? r.params = some (name, arguments) := by
  obtain ⟨-, hname, harguments⟩ := hcalls
  rw [Json.get] at hname harguments
  cases hfind : frame.get? "params" with
  | none =>
      rw [hfind] at hname
      cases hname
  | some params =>
      rw [hfind, Option.getD_some] at hname harguments
      have hpresent : Json.present? params = some params := by
        cases params with
        | null => cases hname
        | _ => rfl
      rw [hparams, hfind, Option.bind_some, hpresent]
      simp [Server.callParams?, Json.get, hname, Json.asText?, harguments]

theorem AnswersRequest.of_success {result : Json} (hid : frame.get? "id" = some r.id.toJson)
    (hcalled : ∀ name arguments, Calls frame name arguments → ∃ outcome,
      (h.call name arguments).run s = (outcome, s') ∧ result.sorted = outcomeResult outcome) :
    AnswersRequest h frame s (success r.id result).toJson s' where
  id := hid.symm
  either := rfl
  called name arguments hcalls := by
    obtain ⟨outcome, hrun, hresult⟩ := hcalled name arguments hcalls
    exact ⟨outcome, hrun, congrArg some hresult⟩

theorem AnswersRequest.of_failure {error : RpcError} (hid : frame.get? "id" = some r.id.toJson)
    (hother : ∀ name arguments, ¬Calls frame name arguments) :
    AnswersRequest h frame s (Response.failure (some r.id) error).toJson s' where
  id := hid.symm
  either := rfl
  called name arguments hcalls := absurd hcalls (hother name arguments)

variable (h who)

/-- Every request is answered, by any handler in any state. -/
theorem answer_answers (hid : frame.get? "id" = some r.id.toJson) (hmethod : frame.get? "method" = some (.str r.method))
    (hparams : r.params = (frame.get? "params").bind Json.present?) (s : σ) :
    ∃ response s', (answer h who r).run s = (response, s') ∧ AnswersRequest h frame s response.toJson s' := by
  have hother (hname : r.method ≠ Method.toolsCall) (name : String) (arguments : Json) :
      ¬Calls frame name arguments := by
    intro hcalls
    have hmethods := hmethod.symm.trans hcalls.method
    exact hname (Json.str.inj (Option.some.inj hmethods))
  have hquiet (hname : r.method ≠ Method.toolsCall) (result : Json) (s' : σ) :
      AnswersRequest h frame s (success r.id result).toJson s' :=
    .of_success hid fun name arguments hcalls => absurd hcalls (hother hname name arguments)
  unfold answer
  split
  · rename_i hname
    exact ⟨_, s, rfl, hquiet (hname ▸ by decide) _ _⟩
  split
  · rename_i hname
    exact ⟨_, s, rfl, hquiet (hname ▸ by decide) _ _⟩
  split
  · rename_i hname
    exact ⟨_, _, rfl, hquiet (hname ▸ by decide) _ _⟩
  split
  · cases hcall : callParams? r.params with
    | none =>
        refine ⟨_, s, rfl, .of_failure hid fun name arguments hcalls => ?_⟩
        rw [hcalls.callParams? hparams] at hcall
        cases hcall
    | some call =>
        obtain ⟨name, arguments⟩ := call
        refine ⟨_, _, rfl, .of_success hid fun name' arguments' hcalls => ?_⟩
        rw [hcalls.callParams? hparams] at hcall
        obtain ⟨rfl, rfl⟩ := Prod.mk.inj (Option.some.inj hcall)
        exact ⟨_, rfl, outcomeResult_eq _⟩
  · rename_i hname
    exact ⟨_, s, rfl, .of_failure hid (hother hname)⟩

/-! ### Lines -/

theorem hasMethod_of_kind (hkind : frameKind frame = .request) : hasMethod frame = true := by
  rw [hasMethod]
  cases hmethod : frame.get? "method" with
  | none => simp [frameKind, hmethod] at hkind
  | some _ => rfl

/-- Frames are told apart by what they are announced as. -/
theorem classify_eq (frame : Json) : classify frame = match frameKind frame with
    | .request => (Request.decode frame).map .request
    | .notification => (Notification.decode frame).map .notification
    | .response => (Response.decode frame).map .response := by
  unfold classify hasMethod hasId frameKind Json.get
  cases frame.get? "method" with
  | none => rfl
  | some method =>
      cases frame.get? "id" with
      | none => rfl
      | some id => cases id <;> rfl

/-- How a message was read from its frame. -/
inductive ReadAs (frame : Json) : FrameKind → Incoming → Prop where
  | request {r : Request} (hdecode : Request.decode frame = .ok r) : ReadAs frame .request (.request r)
  | notification {n : Notification} (hdecode : Notification.decode frame = .ok n) :
      ReadAs frame .notification (.notification n)
  | response {r : Response} (hdecode : Response.decode frame = .ok r) : ReadAs frame .response (.response r)

theorem ok_of_map {ε α β : Type} {x : Except ε α} {f : α → β} {b : β} (h : x.map f = .ok b) :
    ∃ a, x = .ok a ∧ f a = b := by
  cases x with
  | error e => cases h
  | ok a => exact ⟨a, rfl, Except.ok.inj h⟩

theorem classify_ok {message : Incoming} (hclassify : classify frame = .ok message) :
    ReadAs frame (frameKind frame) message := by
  rw [classify_eq] at hclassify
  split at hclassify <;> rename_i hkind <;> rw [hkind] <;> obtain ⟨_, hdecode, rfl⟩ := ok_of_map hclassify
  · exact .request hdecode
  · exact .notification hdecode
  · exact .response hdecode

theorem classify_error {fault : Decode.Fault} (hclassify : classify frame = .error fault) :
    ¬(frameKind frame).Fits frame := by
  rw [classify_eq] at hclassify
  intro hfits
  split at hclassify <;> rename_i hkind <;> rw [hkind] at hfits <;> obtain ⟨message, hdecode⟩ := hfits <;>
    rw [hdecode] at hclassify <;> cases hclassify

theorem answerFrame_answers {line : String} (hblank : isAllBlank line = false) (hread : Json.read line = .ok frame)
    (s : σ) : ∃ response s', (answerFrame h who frame).run s = (response, s') ∧
      AnswersLine h line s (response.map Response.toJson) s' := by
  unfold answerFrame
  cases hclassify : classify frame with
  | error fault => exact ⟨_, s, rfl, .misfit hblank hread (classify_error hclassify)⟩
  | ok message =>
      have hreadAs := classify_ok hclassify
      generalize hkind : frameKind frame = kind at hreadAs
      cases hreadAs with
      | @request r hdecode =>
          obtain ⟨hid, hmethod, hparams⟩ := Request.of_decode (hasMethod_of_kind hkind) hdecode
          obtain ⟨response, s', hrun, hanswers⟩ := answer_answers h who hid hmethod hparams s
          refine ⟨some response, s', ?_, .answered hblank hread (hkind ▸ ⟨r, hdecode⟩) hkind hanswers⟩
          show ((some <$> answer h who r : StateM σ _).run s) = _
          rw [StateT.run_map, hrun]
          rfl
      | @notification n hdecode =>
          exact ⟨none, s, rfl, .unanswered hblank hread (hkind ▸ ⟨n, hdecode⟩) (hkind ▸ by decide)⟩
      | @response r hdecode =>
          exact ⟨none, s, rfl, .unanswered hblank hread (hkind ▸ ⟨r, hdecode⟩) (hkind ▸ by decide)⟩

theorem answerLine_answers (line : String) (s : σ) : ∃ response s', (answerLine h who line).run s = (response, s') ∧
    AnswersLine h line s (response.map Response.toJson) s' := by
  unfold answerLine
  cases hblank : isAllBlank line with
  | true => exact ⟨none, s, rfl, .blank hblank⟩
  | false =>
      cases hread : Json.read line with
      | error fault => exact ⟨_, s, rfl, .unreadable hblank hread⟩
      | ok frame => exact answerFrame_answers h who hblank hread s

/-- What ends a line does not change what the line holds. -/
theorem read_append_end (line : String) {ending : String} (hending : LineEnd ending) :
    isAllBlank (line ++ ending) = isAllBlank line ∧
      (Json.read (line ++ ending)).toOption = (Json.read line).toOption := by
  have hchars : ∀ c ∈ ending.toList, Json.Reader.isBlank c = true ∧ isBlank c = true := by
    have hall : (ending.toList.all fun c => Json.Reader.isBlank c && isBlank c) = true := by
      cases hending <;> decide
    simpa using hall
  refine ⟨?_, Json.read_append_blanks line fun c hc => (hchars c hc).1⟩
  rw [isAllBlank, isAllBlank, String.all_bool_eq, String.all_bool_eq, String.toList_append, List.all_append,
    List.all_eq_true.mpr (fun c hc => (hchars c hc).2), Bool.and_true]

/-- Nor how it is answered. -/
theorem answerLine_append {m : Type → Type} [Monad m] (h : Handler m) (who : Identity) (line : String) {ending : String}
    (hending : LineEnd ending) : answerLine h who (line ++ ending) = answerLine h who line := by
  obtain ⟨hblank, hread⟩ := read_append_end line hending
  unfold answerLine
  rw [hblank]
  cases hline : Json.read line <;> cases hwhole : Json.read (line ++ ending) <;> rw [hline, hwhole] at hread
  · cases hread
  · cases hread
  · cases hread
    rfl

/-! ### Streams -/

theorem serveLines_answers (lines : List Bytes) (s : σ) : ∃ served s' replies,
    (serveLines h who lines).run s = (served, s') ∧ Answers h (lines.map lineContent) s replies served.fault s' ∧
      served.lines = replies.reduceOption.map (fun reply => reply.compact ++ "\n") := by
  induction lines generalizing s with
  | nil => exact ⟨_, s, [], rfl, .done, rfl⟩
  | cons line rest ih =>
      obtain ⟨ending, hending, hline⟩ := lineContent_append line
      have htext (text : String) : utf8Text line = .ok text ↔
          ∃ t, text = t ++ ending ∧ utf8Text (lineContent line) = .ok t := by
        rw [← hending.utf8Text_append, ← hline]
      unfold serveLines
      cases hread : utf8Text line with
      | error fault =>
          refine ⟨_, s, [], rfl, .stopped fun t ht => ?_, rfl⟩
          have hok := (htext (t ++ ending)).mpr ⟨t, rfl, utf8Text_eq_ok_iff.mpr ht.symm⟩
          rw [hread] at hok
          cases hok
      | ok text =>
          obtain ⟨t, rfl, ht⟩ := (htext text).mp hread
          obtain ⟨response, s₁, hrun, hanswers⟩ := answerLine_answers h who t s
          obtain ⟨served, s₂, replies, hrest, hreplies, hlines⟩ := ih s₁
          refine ⟨⟨(response.map responseLine).toList ++ served.lines, served.fault⟩, s₂,
            response.map Response.toJson :: replies, ?_, ?_, ?_⟩
          · dsimp only
            rw [answerLine_append h who t hending, StateT.run_bind, hrun]
            show (StateT.run (serveLines h who rest >>= _) s₁) = _
            rw [StateT.run_bind, hrest]
            rfl
          · rw [List.map_cons, utf8Text_eq_ok_iff.mp ht]
            exact .next hanswers hreplies
          · rw [hlines]
            cases response <;> rfl

variable {m : Type → Type} [Monad m] [LawfulMonad m]

theorem serveLines_append (h : Handler m) (who : Identity) (lines more : List Bytes) :
    serveLines h who (lines ++ more) = do
      let served ← serveLines h who lines
      if served.fault.isSome then return served
      let rest ← serveLines h who more
      return { rest with lines := served.lines ++ rest.lines } := by
  induction lines with
  | nil => simp [serveLines]
  | cons line lines ih =>
      rw [List.cons_append, serveLines, serveLines]
      cases utf8Text line with
      | error fault => simp
      | ok text =>
          simp only [ih, bind_assoc, pure_bind]
          refine bind_congr fun response => bind_congr fun served => ?_
          by_cases hfault : served.fault.isSome <;> simp [hfault, List.append_assoc]

theorem servePieces_eq_serveLines (h : Handler m) (who : Identity) (current : Bytes) (pieces : List Bytes) :
    servePieces h who current pieces = serveLines h who (linesOf current pieces) := by
  induction pieces generalizing current with
  | nil => rfl
  | cons piece pieces ih =>
      rw [servePieces, linesOf, serveLines_append]
      simp only [ih]

/-- It does not matter to a server where a stream is cut into pieces. -/
theorem servePieces_eq (h : Handler m) (who : Identity) (pieces : List Bytes) :
    servePieces h who [] pieces = serve h who pieces.flatten := by
  rw [servePieces_eq_serveLines, linesOf_eq, serve]

/-- A server writes one line at most for every line of a stream, in order, up to the first line that is no text. It
does so for the stream as a whole, and writes the same if it comes in pieces. -/
theorem serve_answers (h : Handler (StateM σ)) (who : Identity) (pieces : List Bytes) (s : σ) :
    ∃ served s' replies, (serve h who pieces.flatten).run s = (served, s') ∧
      (servePieces h who [] pieces).run s = (served, s') ∧
        Answers h ((rawLines pieces.flatten).map lineContent) s replies served.fault s' ∧
          served.output = String.join (replies.reduceOption.map (fun reply => reply.compact ++ "\n")) ∧
            ∀ reply ∈ replies.reduceOption, '\n' ∉ reply.compact.toList := by
  obtain ⟨served, s', replies, hrun, hanswers, hlines⟩ := serveLines_answers h who (rawLines pieces.flatten) s
  refine ⟨served, s', replies, hrun, ?_, hanswers, ?_, fun reply _ => Json.newline_not_mem_compact reply⟩
  · rw [servePieces_eq, serve, hrun]
  · rw [Served.output, hlines]

end Colloquy.Server
