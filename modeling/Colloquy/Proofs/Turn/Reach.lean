import Colloquy.Proofs.Turn.Progress

/-! Conversations as they come about: from a start, by turns and by clearing. Their histories are always
settled (`Reached.settled`), so every completion is asked for with all of the history. -/

namespace Colloquy

namespace Conversation

/-- The conversations that can come about with fresh ids, whatever the worlds answer, each with the texts
and results of the turns since its history was last empty. -/
inductive Reached : Conversation → List (String × TurnResult) → Prop where
  | start {config : TurnConfig} {schemas : List ToolSchema} {ids : IdSupply} {c : Conversation}
      (hstart : Conversation.start config schemas ids = .ok c) : Reached c []
  | clear {c : Conversation} {past : List (String × TurnResult)} (hc : Reached c past) : Reached c.clear []
  | turn {c : Conversation} {past : List (String × TurnResult)} (hc : Reached c past) {σ : Type} (w : World σ)
      (s : σ) (text : String) (hfresh : ∀ e ∈ (c.turn text).trace w s, e.IdsFresh) :
      Reached ((c.turn text).run w s).1.2 (past ++ [(text, ((c.turn text).run w s).1.1)])

variable {c : Conversation} {past : List (String × TurnResult)}

theorem start_history {config : TurnConfig} {schemas : List ToolSchema} {ids : IdSupply}
    (hstart : Conversation.start config schemas ids = .ok c) : c.history = [] := by
  unfold Conversation.start at hstart
  cases hvalid : config.validate with
  | error e => simp [hvalid, Except.map] at hstart
  | ok u =>
      rw [hvalid] at hstart
      cases hstart
      rfl

theorem Reached.settled (hc : Reached c past) : c.history.Settled := by
  induction hc with
  | start hstart =>
      rw [start_history hstart]
      exact .nil
  | clear hc ih => exact .nil
  | @turn c past hc σ w s text hfresh ih =>
      obtain ⟨⟨rs, hadds⟩, _⟩ := adds_of_leads (Dialogue.leads_run w (c.turn text) s) ih hfresh
      exact hadds.settled

end Conversation

/-! ### Small worlds -/

/-- A world that has a number of questions left before it is cancelled: it takes completions from a list,
and answers every call with `null`. -/
def World.limited : World (List Completion × Nat) where
  cancelled s := s.2 == 0
  complete _ _ s := (s.1.head?.map .ok, s.1.tail, s.2 - 1)
  invoke calls s := (some (Vector.replicate calls.length (.ok .null)), s.1, s.2 - 1)

/-- A world that takes completions from a list, and in which every call fails fatally, for a reason of its own. -/
def World.breaking : World (List Completion) where
  cancelled _ := false
  complete _ _ s := (s.head?.map .ok, s.tail)
  invoke calls s := (some (Vector.ofFn fun i => .error (.protocol (calls.get i).toolName)), s)

/-- A batch in which an id stands twice. -/
def Completion.twice : Completion := .batch none [⟨"a", "t", .null⟩, ⟨"a", "u", .null⟩]

namespace Conversation

/-- A conversation whose new ids are `x`, `xx` and so on. -/
def sample : Conversation where
  config := {}
  schemas := []
  ids := ⟨fun n => String.ofList (List.replicate (n + 1) 'x'), 0⟩

theorem reached_sample : Reached sample [] := .start (show Conversation.start {} [] sample.ids = .ok sample from rfl)

/-! ### What is sent -/

variable {c : Conversation} {past : List (String × TurnResult)}

/-- A conversation that has come about sends its whole history: with every completion that a further turn
asks for, and after the turn, however it ended. -/
theorem whole_history_sent (hc : Reached c past) {σ : Type} (w : World σ) (s : σ) (text : String)
    (hfresh : ∀ e ∈ (c.turn text).trace w s, e.IdsFresh) :
    c.history.snapshot = ⟨c.history, []⟩ ∧
      (∀ e ∈ (c.turn text).trace w s, ∀ snapshot tools answer, e.matter = .completion snapshot tools answer →
        snapshot = ⟨e.asker.history, []⟩) ∧
      ((c.turn text).run w s).1.2.history.snapshot = ⟨((c.turn text).run w s).1.2.history, []⟩ := by
  obtain ⟨⟨rs, hadds⟩, hwhole⟩ := adds_of_leads (Dialogue.leads_run w (c.turn text) s) hc.settled hfresh
  exact ⟨hc.settled.snapshot, hwhole, hadds.settled.snapshot⟩

theorem whole_history_sent_sample :
    ((sample.turn "hi").run World.limited ([.twice, .answer "done"], 9)).1.2.history.snapshot =
      ⟨((sample.turn "hi").run World.limited ([.twice, .answer "done"], 9)).1.2.history, []⟩ :=
  (whole_history_sent reached_sample World.limited ([.twice, .answer "done"], 9) "hi" (by decide)).2.2

end Conversation

end Colloquy
