import Mathlib.Data.List.Forall2
import Colloquy.Proofs.Turn.Reach

/-! The shape of a history. A conversation that has come about holds its turns one after another, behind
the system prompt: the user's text, batches with their results, and the answer if there was one. -/

namespace Colloquy

/-- A batch of calls with its results, as a history has them. -/
structure Batch where
  text : Option String
  calls : List ToolCall
  results : List ToolResult

def Batch.messages (b : Batch) : History := .assistant b.text b.calls :: b.results.map .toolResult

/-- There are calls, and each has its result, in the order of the calls. -/
structure Batch.Complete (b : Batch) : Prop where
  calls : b.calls ≠ []
  results : b.results.map (fun r => (r.callId, r.toolName)) = b.calls.map (fun c => (c.id, c.toolName))

/-- What a turn leaves in the history. -/
structure TurnRecord where
  text : String
  batches : List Batch
  answer : Option String

def TurnRecord.messages (t : TurnRecord) : History :=
  .user t.text :: (t.batches.flatMap Batch.messages ++ t.answer.toList.map .answer)

/-- The record is that of a turn with this text and result, with so many rounds at most. -/
structure TurnRecord.Of (rounds : Nat) (turn : String × TurnResult) (t : TurnRecord) : Prop where
  text : t.text = turn.1
  answer : t.answer = turn.2.toOption
  rounds : t.batches.length ≤ rounds
  complete : ∀ b ∈ t.batches, b.Complete

/-- The history of turns: nothing if there are none, and otherwise the system prompt and their records. -/
def transcript (prompt : Option String) : List TurnRecord → History
  | [] => []
  | t :: ts => prompt.toList.map .system ++ (t :: ts).flatMap TurnRecord.messages

theorem transcript_concat (prompt : Option String) (ts : List TurnRecord) (t : TurnRecord) :
    transcript prompt (ts ++ [t]) =
      transcript prompt ts ++ ((if ts = [] then prompt.toList.map .system else []) ++ t.messages) := by
  cases ts with
  | nil => simp [transcript]
  | cons t₁ ts => simp [transcript]

theorem transcript_eq_nil_iff (prompt : Option String) (ts : List TurnRecord) : transcript prompt ts = [] ↔ ts = [] := by
  cases ts with
  | nil => simp [transcript]
  | cons t ts => simp [transcript, TurnRecord.messages]

/-! ### Rounds as batches -/

/-- Outcomes for all the calls are results with the ids and names of the calls. -/
theorem resultsOf_eq_map {calls : List ToolCall} {outcomes : List ToolOutcome} (hlen : outcomes.length = calls.length) :
    ∃ results : List ToolResult, resultsOf calls outcomes = results.map .toolResult ∧
      results.map (fun r => (r.callId, r.toolName)) = calls.map (fun c => (c.id, c.toolName)) := by
  induction calls generalizing outcomes with
  | nil => exact ⟨[], rfl, rfl⟩
  | cons call calls ih =>
      cases outcomes with
      | nil => cases hlen
      | cons o os =>
          obtain ⟨results, hresults, hnames⟩ := ih (Nat.succ.inj hlen)
          obtain ⟨r, hr, hname⟩ : ∃ r : ToolResult, Message.ofOutcome call o = .toolResult r ∧
              (r.callId, r.toolName) = (call.id, call.toolName) := by
            cases o <;> exact ⟨_, rfl, rfl⟩
          refine ⟨r :: results, ?_, ?_⟩
          · rw [resultsOf_cons, hr, hresults, List.map_cons]
          · rw [List.map_cons, List.map_cons, hname, hnames]

theorem Round.Answered.batch {r : Round} (hr : r.Answered) : ∃ b : Batch, b.Complete ∧ r.messages = b.messages := by
  obtain ⟨results, hresults, hnames⟩ := resultsOf_eq_map (outcomesOf_length hr.made)
  refine ⟨⟨r.text, r.issued, results⟩, ⟨hr.issued, hnames⟩, ?_⟩
  rw [Round.messages, hresults]
  rfl

theorem batches_of_rounds {rs : List Round} (hrs : ∀ r ∈ rs, r.Answered) :
    ∃ bs : List Batch, bs.length = rs.length ∧ (∀ b ∈ bs, b.Complete) ∧
      rs.flatMap Round.messages = bs.flatMap Batch.messages := by
  induction rs with
  | nil => exact ⟨[], rfl, by simp, rfl⟩
  | cons r rs ih =>
      rw [List.forall_mem_cons] at hrs
      obtain ⟨b, hb, hmessages⟩ := hrs.1.batch
      obtain ⟨bs, hlen, hbs, hrest⟩ := ih hrs.2
      refine ⟨b :: bs, congrArg Nat.succ hlen, List.forall_mem_cons.mpr ⟨hb, hbs⟩, ?_⟩
      rw [List.flatMap_cons, List.flatMap_cons, hmessages, hrest]

namespace Conversation

variable {c c' : Conversation} {past : List (String × TurnResult)}

/-- A turn adds one record to a transcript. -/
theorem Adds.transcript {text : String} {rs : List Round} {result : TurnResult} {ts : List TurnRecord}
    (hadds : c.Adds text rs result c') (hts : c.history = transcript c.config.systemPrompt ts) :
    ∃ t : TurnRecord, t.Of (c.config.maxRounds - 1) (text, result) ∧
      c'.history = Colloquy.transcript c'.config.systemPrompt (ts ++ [t]) := by
  obtain ⟨bs, hlen, hbs, hmessages⟩ := batches_of_rounds hadds.answered
  refine ⟨⟨text, bs, result.toOption⟩, ⟨rfl, rfl, hlen ▸ hadds.rounds, hbs⟩, ?_⟩
  have hclosing : closing result = result.toOption.toList.map .answer := by
    cases result <;> rfl
  have hpreamble : c.preamble = if ts = [] then c.config.systemPrompt.toList.map .system else [] := by
    split
    · next hnil => exact preamble_of_nil (hts.trans ((transcript_eq_nil_iff _ _).mpr hnil))
    · next hne => exact preamble_of_ne_nil fun hnil => hne ((transcript_eq_nil_iff _ _).mp (hts ▸ hnil))
  rw [hadds.history, hadds.config, opened_history, transcript_concat, ← hts, hpreamble, hmessages, hclosing]
  simp only [TurnRecord.messages, List.append_assoc, List.cons_append, List.nil_append]

theorem Reached.transcript (hc : Reached c past) :
    ∃ ts : List TurnRecord, c.history = Colloquy.transcript c.config.systemPrompt ts ∧
      List.Forall₂ (TurnRecord.Of (c.config.maxRounds - 1)) past ts := by
  induction hc with
  | start hstart => exact ⟨[], start_history hstart, .nil⟩
  | clear hc ih => exact ⟨[], rfl, .nil⟩
  | @turn c past hc σ w s text hfresh ih =>
      obtain ⟨ts, hts, hpast⟩ := ih
      obtain ⟨⟨rs, hadds⟩, _⟩ := adds_of_leads (Dialogue.leads_run w (c.turn text) s) hc.settled hfresh
      obtain ⟨t, ht, hhistory⟩ := hadds.transcript hts
      rw [hadds.config]
      exact ⟨ts ++ [t], hadds.config ▸ hhistory, List.rel_append hpast (.cons ht .nil)⟩

/-- The history of a conversation that has come about is the transcript of its turns: of each its text, its
batches with their results, and its answer exactly if it returned one. Further turns append to it. -/
theorem history_is_transcript (hc : Reached c past) :
    (∃ ts : List TurnRecord, c.history = Colloquy.transcript c.config.systemPrompt ts ∧
      List.Forall₂ (TurnRecord.Of (c.config.maxRounds - 1)) past ts) ∧
    ∀ {σ : Type} (w : World σ) (s : σ) (text : String), c.history <+: ((c.turn text).run w s).1.2.history :=
  ⟨hc.transcript, fun w s text => turn_appends c text w s⟩

theorem history_is_transcript_sample :
    ∃ ts : List TurnRecord,
      ((sample.turn "hi").run World.limited ([.twice, .answer "done"], 9)).1.2.history = Colloquy.transcript none ts ∧
      List.Forall₂ (TurnRecord.Of 1) [("hi", .ok "done")] ts :=
  (history_is_transcript (.turn reached_sample World.limited ([.twice, .answer "done"], 9) "hi" (by decide))).1

end Conversation

end Colloquy
