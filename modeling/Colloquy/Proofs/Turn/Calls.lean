import Colloquy.Proofs.Turn.Cancellation

/-! Which calls a turn makes. Unless it is cancelled, a turn makes the calls of its rounds in order, each
once, up to the first fatal error, and what it records of each is its own outcome. A fatal error is what
the turn fails with, and nothing else is asked after it. -/

namespace Colloquy

/-- The result that stands for a call behind a fatal error. -/
def ToolCall.refusedResult (e : ToolError) (call : ToolCall) : Message :=
  .toolResult ⟨call.id, call.toolName,
    .obj [("error", .str (ToolError.protocol s!"Not executed: {e.message}").message)], true⟩

/-- What stands in the history of a round with a fatal error: the outcomes of the calls made, and
refusals of the others. -/
theorem Round.messages_of_fatal {r : Round} {e : ToolError} (hfatal : r.fatal = some e) :
    r.messages = .assistant r.text r.issued :: (resultsOf r.issued r.made ++
      (r.issued.drop r.made.length).map (ToolCall.refusedResult e)) := by
  have hfirst : firstFatalOf r.made = some e := hfatal
  rw [messages, outcomesOf, hfirst, resultsOf_replicate]
  rfl

/-- Without a fatal error, all the calls of a round are made. -/
theorem Round.Faithful.made_all {parallel : Bool} {r : Round} (hr : r.Faithful parallel) (hfatal : r.fatal = none) :
    r.made.length = r.issued.length := by
  have hmade := hr.made
  unfold MadeInFull at hmade
  split at hmade
  · exact hmade
  · exact hmade.2.resolve_right fun hshort => hshort.2 hfatal

/-- How the rounds of a turn conclude that is not cancelled, given how many rounds with calls it may have:
with the questions that come after them, and the result. -/
inductive Conclusion (limit : Nat) : List Round → List Matter → TurnResult → Prop where
  /-- The last round meets the first fatal error. The calls behind it are refused, nothing is asked any
  more, and the turn fails with that error. -/
  | fatal {earlier : List Round} {r : Round} {e : ToolError} (hearlier : ∀ r' ∈ earlier, r'.fatal = none)
      (hr : r.fatal = some e)
      (hrefused : r.messages = .assistant r.text r.issued :: (resultsOf r.issued r.made ++
        (r.issued.drop r.made.length).map (ToolCall.refusedResult e))) :
      Conclusion limit (earlier ++ [r]) [] (.error (.protocol e.message))
  /-- No round meets a fatal error, and all their calls are made. One more completion is requested, which
  brings calls only if no further round is permitted, and the turn does not fail by a fatal error. -/
  | calm {rs : List Round} {snapshot : Snapshot} {tools : List ToolSchema} {answer : CompletionResult}
      {result : TurnResult} (hrs : ∀ r ∈ rs, r.fatal = none ∧ r.made.length = r.issued.length)
      (hlast : ∀ text calls, answer = .ok (.batch text calls) → calls = [] ∨ rs.length = limit)
      (hresult : ∀ reason, result ≠ .error (.protocol reason)) :
      Conclusion limit rs [.completion snapshot tools (some answer)] result

namespace Conversation

variable {σ : Type} {c c' : Conversation} {text : String} {es : List (Exchange Conversation σ)} {result : TurnResult}

/-- How a turn that is not cancelled carries out what the model asks for, given by its questions and their
answers, its result, and the history after it: the questions are those of its rounds and what comes after
them, the calls of each round are the model's, and the history has their outcomes. -/
structure CarriesOut (c : Conversation) (text : String) (asked : List Matter) (result : TurnResult) (after : History)
    (rs : List Round) (last : List Matter) : Prop where
  asked : asked = rs.flatMap (Round.matters c.config.parallelTools) ++ last
  rounds : rs.length ≤ c.config.maxRounds - 1
  faithful : ∀ r ∈ rs, r.Faithful c.config.parallelTools
  conclusion : Conclusion (c.config.maxRounds - 1) rs last result
  history : after = (c.opened text).history ++ rs.flatMap Round.messages ++ closing result

theorem carriesOut_of_leads (hleads : (c.turn text).Leads es (result, c')) (hdone : result ≠ .error .cancelled) :
    ∃ rs last, c.CarriesOut text (es.map (·.matter)) result c'.history rs last := by
  obtain ⟨rs, es₁, es₂, c₁, rfl, hgoes, hends⟩ := leads_turn hleads
  have hplays := hgoes.plays
  have hleft := hplays.left
  have hmade : ∀ r ∈ rs, r.fatal = none ∧ r.made.length = r.issued.length := fun r hr =>
    ⟨(hplays.faithful r hr).2, (hplays.faithful r hr).1.made_all (hplays.faithful r hr).2⟩
  have hasked : ∀ {e : Exchange Conversation σ} {answer : CompletionResult}, c₁.Asks (some answer) e →
      (es₁ ++ [e]).map (·.matter) = rs.flatMap (Round.matters c.config.parallelTools) ++
        [.completion c₁.history.snapshot (c₁.offered (c₁.roundsLeft == 0)) (some answer)] := by
    intro e answer hasks
    rw [List.map_append, hplays.asked, List.map_singleton, hasks.matter]
  have hfailed : ∀ failure : Failure, c₁.history =
      (c.opened text).history ++ rs.flatMap Round.messages ++ closing (.error failure) := by
    intro failure
    rw [hplays.history]
    exact (List.append_nil _).symm
  cases hends with
  | halted | stopped | interrupted => exact absurd rfl hdone
  | failed hasks =>
      refine ⟨rs, _, hasked hasks, by omega, fun r hr => (hplays.faithful r hr).1, ?_, hfailed _⟩
      exact .calm hmade (by simp) (by simp)
  | @answered e completion text' hasks hanswer =>
      refine ⟨rs, _, hasked hasks, by omega, fun r hr => (hplays.faithful r hr).1, ?_, ?_⟩
      · refine .calm hmade (fun text calls hbatch => Or.inl ?_) (by simp)
        cases hbatch
        cases calls with
        | nil => rfl
        | cons call calls => cases hanswer
      · exact congrArg (· ++ [Message.answer text']) hplays.history
  | @forced e text' calls hasks hcalls hzero hlimit =>
      refine ⟨rs, _, hasked hasks, by omega, fun r hr => (hplays.faithful r hr).1, ?_, ?_⟩
      · exact .calm hmade (fun text calls hbatch => Or.inr (by omega)) (by simp)
      · exact congrArg (· ++ [Message.answer (text'.getD "")]) hplays.history
  | exceeded hasks hcalls hzero hlimit =>
      refine ⟨rs, _, hasked hasks, by omega, fun r hr => (hplays.faithful r hr).1, ?_, hfailed _⟩
      exact .calm hmade (fun text calls hbatch => Or.inr (by omega)) (by simp)
  | @lost r e es error hopens hr hes hfatal =>
      have hfaithful := hopens.faithful hr
      rw [hplays.config] at hfaithful hes
      refine ⟨rs ++ [r], [], ?_, ?_, ?_, ?_, ?_⟩
      · rw [List.map_append, List.map_cons, hplays.asked, hes, hopens.request, List.append_nil, List.flatMap_append,
          List.flatMap_singleton]
        rfl
      · have hpos := hopens.left
        rw [List.length_append, List.length_singleton]
        omega
      · intro r' hr'
        rcases List.mem_append.mp hr' with hr' | hr'
        · exact (hplays.faithful r' hr').1
        · rw [List.mem_singleton.mp hr']
          exact hfaithful
      · exact .fatal (fun r hr => (hmade r hr).1) hfatal (Round.messages_of_fatal hfatal)
      · show (c₁.played r).history = _
        rw [played_history hopens, hplays.history, List.flatMap_append, List.flatMap_singleton, List.append_assoc]
        exact (List.append_nil _).symm

/-- Unless somebody cancels it, a turn does not end as cancelled, and asks its world for exactly the completions and
calls of its rounds. -/
theorem calls_carried_out (c : Conversation) (text : String) (w : World σ) (s : σ)
    (hcalm : (c.turn text).Undisturbed w s) :
    ((c.turn text).run w s).1.1 ≠ .error .cancelled ∧
      ∃ rs last, c.CarriesOut text ((c.turn text).run w.recording (s, [])).2.2 ((c.turn text).run w s).1.1
        ((c.turn text).run w s).1.2.history rs last := by
  have hdone : ((c.turn text).run w s).1.1 ≠ .error .cancelled := (turn_cancelled_iff c text w s).not_left.mpr hcalm
  refine ⟨hdone, ?_⟩
  rw [Dialogue.run_recording, List.nil_append]
  exact carriesOut_of_leads (Dialogue.leads_run w (c.turn text) s) hdone

/-- A conversation that makes the calls of a batch at the same time. -/
def parallelSample : Conversation := { sample with config := { parallelTools := true } }

/-- A turn in which the calls are made one after another, one in which they are made at the same time, and one in which
both of two such calls fail. -/
theorem calls_carried_out_sample :
    (∃ rs last, sample.CarriesOut "hi"
      ((sample.turn "hi").run World.limited.recording (([.twice, .answer "done"], 9), [])).2.2 (.ok "done")
      ((sample.turn "hi").run World.limited ([.twice, .answer "done"], 9)).1.2.history rs last) ∧
    (∃ rs last, parallelSample.CarriesOut "hi"
      ((parallelSample.turn "hi").run World.limited.recording (([.twice, .answer "done"], 9), [])).2.2 (.ok "done")
      ((parallelSample.turn "hi").run World.limited ([.twice, .answer "done"], 9)).1.2.history rs last) ∧
    ∃ rs last, parallelSample.CarriesOut "hi"
      ((parallelSample.turn "hi").run World.breaking.recording ([.twice, .answer "done"], [])).2.2
      (.error (.protocol (ToolError.protocol "t").message))
      ((parallelSample.turn "hi").run World.breaking [.twice, .answer "done"]).1.2.history rs last :=
  ⟨(calls_carried_out sample "hi" World.limited ([.twice, .answer "done"], 9) (by decide)).2,
    (calls_carried_out parallelSample "hi" World.limited ([.twice, .answer "done"], 9) (by decide)).2,
    (calls_carried_out parallelSample "hi" World.breaking [.twice, .answer "done"] (by decide)).2⟩

end Conversation

end Colloquy
