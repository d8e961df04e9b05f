import Colloquy.Proofs.Turn.Reach

/-! What a cancelled turn leaves. The turn is cut off at a request or within a batch; the batch keeps the
outcomes that were there, and its other calls are answered as cancelled, so nothing stays open. A turn
minds its cancellation (`turn_minds`): it asks nothing more, and fails as cancelled only then. -/

namespace Colloquy

/-- The result of a call that was cancelled. -/
def ToolCall.cancelledResult (call : ToolCall) : Message :=
  .toolResult ⟨call.id, call.toolName, .obj [("error", .str "Cancelled by user")], true⟩

/-- Where a turn is cut off: what it asked last, and what that leaves in the history. -/
inductive CutOff (parallel : Bool) : List Matter → History → Prop where
  /-- Before a completion is requested. -/
  | silent : CutOff parallel [] []
  | request (snapshot : Snapshot) (tools : List ToolSchema) : CutOff parallel [.completion snapshot tools none] []
  /-- Within a batch. What it made so far counts, and the rest is answered as cancelled. -/
  | batch {r : Round} {ms : List Matter} (hasked : r.asked ≠ [])
      (hrequests : r.issued.map ToolCall.request = r.asked.map ToolCall.request)
      (hmade : MadeInPart parallel r.issued r.made) (hms : BrokenOff parallel r.issued r.made ms) :
      CutOff parallel (r.request :: ms) (.assistant r.text r.issued ::
        (resultsOf r.issued r.made ++ (r.issued.drop r.made.length).map ToolCall.cancelledResult))

/-- What stands in the history of a round that was cut off. -/
theorem Round.messages_of_cutOff {r : Round} (hfatal : r.fatal = none) :
    r.messages = .assistant r.text r.issued ::
      (resultsOf r.issued r.made ++ (r.issued.drop r.made.length).map ToolCall.cancelledResult) := by
  have hfirst : firstFatalOf r.made = none := hfatal
  rw [messages, outcomesOf, hfirst, resultsOf_replicate]
  rfl

namespace Conversation

variable {σ : Type} {c c' : Conversation} {past : List (String × TurnResult)} {text : String}
  {es : List (Exchange Conversation σ)}

/-! ### A turn minds its cancellation -/

/-- The turn ends as cancelled. -/
def IsCancelled (outcome : TurnResult × Conversation) : Prop := outcome.1 = .error .cancelled

theorem cancelled_givesUp (c : Conversation) : c.cancelled.GivesUp IsCancelled := ⟨_, rfl, rfl⟩

theorem finish_minds (c : Conversation) {result : TurnResult} (hresult : result ≠ .error .cancelled) :
    (c.finish result).Minds IsCancelled := .done hresult

theorem answer_minds (c : Conversation) (text : String) : (c.answer text).Minds IsCancelled := finish_minds _ nofun

theorem oneByOne_minds {next : Conversation → Option ToolError → Turn}
    (hnext : ∀ c fatal, (next c fatal).Minds IsCancelled) (c : Conversation) (fatal : Option ToolError)
    (calls : List ToolCall) : (c.oneByOne fatal next calls).Minds IsCancelled := by
  induction calls generalizing c fatal with
  | nil => exact hnext c fatal
  | cons call calls ih =>
      cases fatal with
      | some e => exact ih _ _
      | none => exact .invoke c.cancelled_givesUp c.cancelled_givesUp fun outcomes => ih _ _

theorem execute_minds {next : Conversation → Option ToolError → Turn}
    (hnext : ∀ c fatal, (next c fatal).Minds IsCancelled) (c : Conversation) (calls : List ToolCall) :
    (c.execute calls next).Minds IsCancelled := by
  unfold execute
  split
  · exact .invoke c.cancelled_givesUp c.cancelled_givesUp fun outcomes => hnext _ _
  · exact oneByOne_minds hnext c none calls

theorem request_minds {next : Completion → Turn} (hnext : ∀ completion, (next completion).Minds IsCancelled)
    (c : Conversation) (isFinal : Bool) : (c.request isFinal next).Minds IsCancelled := by
  refine .complete c.cancelled_givesUp c.cancelled_givesUp fun answer => ?_
  cases answer with
  | error e => exact finish_minds _ nofun
  | ok completion => exact hnext completion

theorem rounds_minds (c : Conversation) (round left : Nat) : (c.rounds round left).Minds IsCancelled := by
  induction left generalizing c round with
  | zero =>
      refine request_minds (fun completion => ?_) _ _
      rcases completion with text | ⟨text, _ | ⟨call, calls⟩⟩
      · exact answer_minds _ _
      · exact answer_minds _ _
      · show (atLimit _ text).Minds IsCancelled
        unfold atLimit
        split
        · exact answer_minds _ _
        · exact finish_minds _ nofun
  | succ left ih =>
      refine request_minds (fun completion => ?_) _ _
      rcases completion with text | ⟨text, _ | ⟨call, calls⟩⟩
      · exact answer_minds _ _
      · exact answer_minds _ _
      · refine execute_minds (fun c fatal => ?_) _ _
        cases fatal with
        | some e => exact finish_minds _ nofun
        | none => exact ih c (round + 1)

theorem turn_minds (c : Conversation) (text : String) : (c.turn text).Minds IsCancelled := rounds_minds _ _ _

/-- A turn ends as cancelled exactly if somebody cancels it. -/
theorem turn_cancelled_iff (c : Conversation) (text : String) (w : World σ) (s : σ) :
    ((c.turn text).run w s).1.1 = .error .cancelled ↔ ¬(c.turn text).Undisturbed w s :=
  (c.turn_minds text).givenUp_iff w s

/-! ### Where a turn is cut off -/

/-- How a turn stands that was cancelled, given by the questions that came up and the history after it. -/
structure CutShort (c : Conversation) (text : String) (asked : List Matter) (after : History) (rs : List Round)
    (last : List Matter) (rest : History) : Prop where
  asked : asked = rs.flatMap (Round.matters c.config.parallelTools) ++ last
  faithful : ∀ r ∈ rs, r.Faithful c.config.parallelTools ∧ r.fatal = none
  cutOff : CutOff c.config.parallelTools last rest
  history : after = (c.opened text).history ++ rs.flatMap Round.messages ++ rest

theorem cutShort_of_leads (hleads : (c.turn text).Leads es (.error .cancelled, c')) (hs : c.history.Settled)
    (hfresh : ∀ e ∈ es, e.IdsFresh) : ∃ rs last rest, c.CutShort text (es.map (·.matter)) c'.history rs last rest := by
  obtain ⟨rs, es₁, es₂, c₁, rfl, hgoes, hends⟩ := leads_turn hleads
  have hplays := hgoes.plays
  obtain ⟨hsettled, _⟩ := hgoes.settled (opened_settled hs text) fun e he => hfresh e (List.mem_append_left _ he)
  cases hends with
  | halted =>
      refine ⟨rs, [], [], ?_, hplays.faithful, .silent, ?_⟩
      · rw [List.append_nil, List.append_nil, hplays.asked]
      · rw [stopped_history hsettled, hplays.history, List.append_nil]
  | @stopped e hasks =>
      refine ⟨rs, _, [], ?_, hplays.faithful, .request c₁.history.snapshot (c₁.offered (c₁.roundsLeft == 0)), ?_⟩
      · rw [List.map_append, hplays.asked, List.map_singleton, hasks.matter]
      · rw [stopped_history hsettled, hplays.history, List.append_nil]
  | @interrupted r e es hopens hr hes =>
      have htakes := hopens.takes (hfresh e (List.mem_append_right _ List.mem_cons_self))
      have hrest := interrupted_history hopens hsettled htakes hr
      rw [hplays.config] at hr hes
      refine ⟨rs, _, _, ?_, hplays.faithful, .batch hopens.asked hopens.requests hr hes, ?_⟩
      · rw [List.map_append, List.map_cons, hplays.asked, hopens.request]
      · rw [hrest, hplays.history, Round.messages_of_cutOff hr.2.1]

/-! ### Cancelled turns -/

/-- A turn asks nothing after it has been cancelled. If that is its result, nothing in the history is
open, what was there before the turn is unchanged, and every call of a batch that was cut off has one
result: its own if it was there in time. -/
theorem cancelled_turn (hc : Reached c past) (w : World σ) (s : σ) (text : String)
    (hfresh : ∀ e ∈ (c.turn text).trace w s, e.IdsFresh) :
    (∀ earlier e later, (c.turn text).trace w s = earlier ++ e :: later → Dialogue.Untouched w s earlier e) ∧
    (((c.turn text).run w s).1.1 = .error .cancelled →
      ((c.turn text).run w s).1.2.history.unanswered = [] ∧
      ((c.turn text).run w s).1.2.history.Settled ∧
      c.history <+: ((c.turn text).run w s).1.2.history ∧
      ∃ rs last rest, c.CutShort text (((c.turn text).trace w s).map (·.matter))
        ((c.turn text).run w s).1.2.history rs last rest) := by
  refine ⟨fun earlier e later htrace => (c.turn_minds text).untouched htrace, fun hcancelled => ?_⟩
  have hleads := Dialogue.leads_run w (c.turn text) s
  obtain ⟨⟨rs, hadds⟩, _⟩ := adds_of_leads hleads hc.settled hfresh
  have hresult : ((c.turn text).run w s).1 = (.error .cancelled, ((c.turn text).run w s).1.2) :=
    Prod.ext hcancelled rfl
  rw [hresult] at hleads
  exact ⟨hadds.settled.unanswered, hadds.settled, turn_appends c text w s, cutShort_of_leads hleads hc.settled hfresh⟩

theorem cancelled_turn_sample :
    ((sample.turn "hi").run World.limited ([.twice], 2)).1.1 = .error .cancelled ∧
      ((sample.turn "hi").run World.limited ([.twice], 2)).1.2.history.unanswered = [] :=
  ⟨rfl, ((cancelled_turn reached_sample World.limited ([.twice], 2) "hi" (by decide)).2 rfl).1⟩

end Conversation

end Colloquy
