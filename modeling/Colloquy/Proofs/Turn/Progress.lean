import Colloquy.Proofs.Turn.Course
import Colloquy.Proofs.Turn.Issue

/-! What a turn adds to the history, and what it asks. Rounds that are played add their batches with all
results (`Goes.history`), and how the turn ends decides what comes after them (`Ends.history`). As long
as the ids handed out are fresh, the history is settled whenever a completion is requested and when the
turn is over. -/

namespace Colloquy

/-- The calls of a round are those that the model asked for, apart from their ids, and those due are made. -/
structure Round.Faithful (parallel : Bool) (r : Round) : Prop where
  asked : r.asked ≠ []
  requests : r.issued.map ToolCall.request = r.asked.map ToolCall.request
  made : MadeInFull parallel r.issued r.made

/-- The round took calls in, and has no more outcomes than calls. -/
structure Round.Answered (r : Round) : Prop where
  issued : r.issued ≠ []
  made : r.made.length ≤ r.issued.length

theorem Round.Faithful.answered {parallel : Bool} {r : Round} (hr : r.Faithful parallel) : r.Answered where
  issued hnil := by
    have hrequests := hr.requests
    rw [hnil, List.map_nil, eq_comm, List.map_eq_nil_iff] at hrequests
    exact hr.asked hrequests
  made := hr.made.length_le

/-- The message with which a turn closes: its answer, if it has one. -/
def closing : TurnResult → History
  | .ok text => [.answer text]
  | .error _ => []

variable {σ : Type} {e : Exchange Conversation σ} {es : List (Exchange Conversation σ)}

/-- The calls of the batch that a completion brought. -/
def Matter.batch? : Matter → Option (List ToolCall)
  | .completion _ _ (some (.ok (.batch _ calls))) => some calls
  | _ => none

/-- The ids handed out for the batch of a completion, if it is taken in, are neither in the history nor
in the batch, and they differ. -/
def Exchange.IdsFresh (e : Exchange Conversation σ) : Prop :=
  ∀ calls ∈ e.matter.batch?, 0 < e.asker.roundsLeft →
    e.asker.ids.FreshBelow (renewIds e.asker.history.issues e.asker.ids [] calls).2.next
      (e.asker.history.issuedIds ++ calls.map (·.id))

instance (e : Exchange Conversation σ) : Decidable e.IdsFresh :=
  inferInstanceAs (Decidable (∀ calls ∈ e.matter.batch?, _))

/-- The exchange sends all of the asker's history, if it requests a completion. -/
def Exchange.Whole (e : Exchange Conversation σ) : Prop :=
  ∀ snapshot tools answer, e.matter = .completion snapshot tools answer → snapshot = ⟨e.asker.history, []⟩

theorem whole_of_invocations (hes : ∀ m ∈ es.map (·.matter), ∃ calls outcomes, m = .invocation calls outcomes) :
    ∀ e ∈ es, e.Whole := by
  intro e he snapshot tools answer hmatter
  obtain ⟨calls, outcomes, hinvocation⟩ := hes e.matter (List.mem_map_of_mem he)
  rw [hmatter] at hinvocation
  cases hinvocation

namespace Conversation

variable {c c' : Conversation} {r : Round} {rs : List Round} {result : TurnResult}

theorem Asks.whole {answer : Option CompletionResult} (hasks : c.Asks answer e) (hs : c.history.Settled) :
    e.Whole := by
  intro snapshot tools answer' hmatter
  rw [hasks.matter] at hmatter
  cases hmatter
  rw [hasks.asker]
  exact hs.snapshot

/-! ### One round -/

theorem played_history (hopens : c.Opens r e) : (c.played r).history = c.history ++ r.messages := by
  show c.history ++ [.assistant r.text (c.issue c.round r.text r.asked).1] ++ resultsOf r.issued _ = _
  rw [← hopens.issued, List.append_assoc]
  rfl

theorem Opens.request (hopens : c.Opens r e) : e.matter = r.request := by
  have hmore : (c.roundsLeft == 0) = false := beq_eq_false_iff_ne.mpr (Nat.ne_of_gt hopens.left)
  rw [hopens.asks.matter, hmore, Round.request, hopens.snapshot, hopens.tools]
  rfl

theorem Opens.requests (hopens : c.Opens r e) :
    r.issued.map ToolCall.request = r.asked.map ToolCall.request := by
  rw [hopens.issued]
  exact renewIds_requests c.history.issues c.ids [] r.asked

theorem Opens.faithful (hopens : c.Opens r e) (hmade : MadeInFull c.config.parallelTools r.issued r.made) :
    r.Faithful c.config.parallelTools := ⟨hopens.asked, hopens.requests, hmade⟩

/-- With fresh ids a batch can be taken in. -/
theorem Opens.takes (hopens : c.Opens r e) (hfresh : e.IdsFresh) : c.history.Takes r.issued := by
  have hids := hfresh r.asked (by rw [hopens.asks.matter]; rfl)
  rw [hopens.asks.asker] at hids
  rw [hopens.issued]
  exact takes_issue (hids hopens.left)

theorem Opens.issued_ne_nil (hopens : c.Opens r e) : r.issued ≠ [] := by
  rw [hopens.issued]
  exact c.issue_ne_nil c.round r.text hopens.asked

/-! ### Rounds that are played -/

theorem Goes.config (hgoes : Goes c rs es c') : c'.config = c.config := by
  induction hgoes with
  | nil c => rfl
  | cons hopens hmade hes hfatal hrest ih => exact ih

theorem Goes.roundsLeft (hgoes : Goes c rs es c') : rs.length + c'.roundsLeft = c.roundsLeft := by
  induction hgoes with
  | nil c => exact Nat.zero_add _
  | @cons c c' r rs e es es' hopens hmade hes hfatal hrest ih =>
      have hnext : ((c.played r).enter (.requesting (c.round + 1))).roundsLeft = c.roundsLeft - 1 := by
        show c.config.maxRounds - (c.round + 1) = c.config.maxRounds - c.round - 1
        omega
      have hpos := hopens.left
      rw [List.length_cons]
      omega

theorem Goes.history (hgoes : Goes c rs es c') : c'.history = c.history ++ rs.flatMap Round.messages := by
  induction hgoes with
  | nil c => rw [List.flatMap_nil, List.append_nil]
  | @cons c c' r rs e es es' hopens hmade hes hfatal hrest ih =>
      have hnext : ((c.played r).enter (.requesting (c.round + 1))).history = c.history ++ r.messages :=
        played_history hopens
      rw [ih, hnext, List.flatMap_cons, List.append_assoc]

theorem Goes.matters (hgoes : Goes c rs es c') :
    es.map (·.matter) = rs.flatMap (Round.matters c.config.parallelTools) := by
  induction hgoes with
  | nil c => rfl
  | @cons c c' r rs e es es' hopens hmade hes hfatal hrest ih =>
      rw [List.map_cons, List.map_append, hes, ih, hopens.request]
      rfl

theorem Goes.faithful (hgoes : Goes c rs es c') :
    ∀ r ∈ rs, r.Faithful c.config.parallelTools ∧ r.fatal = none := by
  induction hgoes with
  | nil c => exact fun r hr => nomatch hr
  | cons hopens hmade hes hfatal hrest ih =>
      exact List.forall_mem_cons.mpr ⟨⟨hopens.faithful hmade, hfatal⟩, ih⟩

/-- Playing rounds keeps the history settled, and every completion is asked for with all of it. -/
theorem Goes.settled (hgoes : Goes c rs es c') (hs : c.history.Settled) (hfresh : ∀ e ∈ es, e.IdsFresh) :
    c'.history.Settled ∧ ∀ e ∈ es, e.Whole := by
  induction hgoes with
  | nil c => exact ⟨hs, fun e he => nomatch he⟩
  | @cons c c' r rs e es es' hopens hmade hes hfatal hrest ih =>
      have htakes := hopens.takes (hfresh e List.mem_cons_self)
      have hplayed : (c.played r).history.Settled := by
        rw [played_history hopens]
        exact hs.batch htakes r.text (outcomesOf_length hmade.length_le)
      obtain ⟨hsettled, hwhole⟩ := ih hplayed fun e he => hfresh e (List.mem_cons_of_mem _ (List.mem_append_right _ he))
      refine ⟨hsettled, List.forall_mem_cons.mpr ⟨hopens.asks.whole hs, fun e he => ?_⟩⟩
      rcases List.mem_append.mp he with he | he
      · exact whole_of_invocations (fun m hm => mem_invocations (hes ▸ hm)) e he
      · exact hwhole e he

/-! ### How a turn ends -/

theorem Ends.config (hends : Ends c es (result, c')) : c'.config = c.config := by
  cases hends <;> rfl

theorem stopped_history (hs : c.history.Settled) : c.stopped.history = c.history := hs.close .cancelled

/-- After a cancellation within a batch, the calls without an outcome are answered as cancelled. -/
theorem interrupted_history (hopens : c.Opens r e) (hs : c.history.Settled) (htakes : c.history.Takes r.issued)
    (hmade : MadeInPart c.config.parallelTools r.issued r.made) :
    ((c.issuing r).gains (resultsOf r.issued r.made)).stopped.history = c.history ++ r.messages := by
  have hopen : ((c.issuing r).gains (resultsOf r.issued r.made)).history =
      c.history ++ .assistant r.text r.issued :: resultsOf r.issued r.made := by
    show c.history ++ [.assistant r.text (c.issue c.round r.text r.asked).1] ++ resultsOf r.issued r.made = _
    rw [← hopens.issued, List.append_assoc]
    rfl
  have hclose := hs.close_batch htakes r.text r.made .cancelled
  rw [← hopen] at hclose
  rw [Round.messages, outcomesOf, resultsOf_replicate, hmade.2.1]
  exact hclose

/-- What the end of a turn adds: at most one more batch, with all its results, and the answer. -/
theorem Ends.history (hends : Ends c es (result, c')) (hs : c.history.Settled) (hfresh : ∀ e ∈ es, e.IdsFresh) :
    ∃ last : List Round, last.length ≤ c.roundsLeft ∧ (∀ r ∈ last, r.Answered) ∧
      c'.history = c.history ++ last.flatMap Round.messages ++ closing result ∧ c'.history.Settled := by
  cases hends with
  | halted | stopped _ =>
      rw [stopped_history hs]
      exact ⟨[], Nat.zero_le _, by simp, by simp [closing], hs⟩
  | failed hasks => exact ⟨[], Nat.zero_le _, by simp, by simp [closing, enter], hs⟩
  | answered hasks hanswer => exact ⟨[], Nat.zero_le _, by simp, by simp [closing, enter, gains], hs.plain rfl rfl⟩
  | forced hasks hcalls hleft hlimit =>
      exact ⟨[], Nat.zero_le _, by simp, by simp [closing, enter, gains], hs.plain rfl rfl⟩
  | exceeded hasks hcalls hleft hlimit => exact ⟨[], Nat.zero_le _, by simp, by simp [closing, enter], hs⟩
  | @lost r e es error hopens hmade hes hfatal =>
      have htakes := hopens.takes (hfresh e List.mem_cons_self)
      have hhistory : ((c.played r).enter .awaitingInput).history = c.history ++ r.messages := played_history hopens
      rw [hhistory]
      refine ⟨[r], hopens.left, by simpa using (hopens.faithful hmade).answered, by simp [closing], ?_⟩
      exact hs.batch htakes r.text (outcomesOf_length hmade.length_le)
  | @interrupted r e es hopens hmade hes =>
      have htakes := hopens.takes (hfresh e List.mem_cons_self)
      have hanswered : r.Answered := ⟨hopens.issued_ne_nil, Nat.le_of_lt hmade.1⟩
      rw [interrupted_history hopens hs htakes hmade]
      refine ⟨[r], hopens.left, by simpa using hanswered, by simp [closing], ?_⟩
      exact hs.batch htakes r.text (outcomesOf_length hanswered.made)

/-- Whatever ends a turn, its completion was asked for with all of the history. -/
theorem Ends.whole (hends : Ends c es (result, c')) (hs : c.history.Settled) : ∀ e ∈ es, e.Whole := by
  cases hends with
  | halted => simp
  | stopped hasks | failed hasks | answered hasks _ | forced hasks _ _ _ | exceeded hasks _ _ _ =>
      simpa using hasks.whole hs
  | lost hopens _ hes _ =>
      exact List.forall_mem_cons.mpr ⟨hopens.asks.whole hs, whole_of_invocations fun m hm => mem_invocations (hes ▸ hm)⟩
  | interrupted hopens _ hes =>
      exact List.forall_mem_cons.mpr
        ⟨hopens.asks.whole hs, whole_of_invocations fun m hm => hes.mem hm⟩

/-! ### A whole turn -/

/-- What a turn puts before the user's text: the system prompt, at the start of a history. -/
def preamble (c : Conversation) : History :=
  match c.history, c.config.systemPrompt with
  | [], some prompt => [.system prompt]
  | _, _ => []

theorem preamble_of_nil (hnil : c.history = []) : c.preamble = c.config.systemPrompt.toList.map .system := by
  cases hprompt : c.config.systemPrompt <;> simp [preamble, hnil, hprompt]

theorem preamble_of_ne_nil (hne : c.history ≠ []) : c.preamble = [] := by
  unfold preamble
  split
  · next hnil _ => exact absurd hnil hne
  · rfl

theorem opened_history (c : Conversation) (text : String) :
    (c.opened text).history = c.history ++ (c.preamble ++ [.user text]) := by
  cases hhistory : c.history with
  | nil => cases hprompt : c.config.systemPrompt <;> simp [opened, preamble, append, hhistory, hprompt]
  | cons m ms => simp [opened, preamble, append, hhistory]

theorem opened_settled (hs : c.history.Settled) (text : String) : (c.opened text).history.Settled := by
  have hpreamble : History.Settled (c.history ++ c.preamble) := by
    unfold preamble
    split
    · exact hs.plain rfl rfl
    · rwa [List.append_nil]
  rw [opened_history, ← List.append_assoc]
  exact hpreamble.plain rfl rfl

/-- The conversation that a turn has come to after it played some rounds, by what it asked in them. -/
structure Plays (c : Conversation) (text : String) (rs : List Round) (asked : List Matter) (c' : Conversation) : Prop where
  config : c'.config = c.config
  left : rs.length + c'.roundsLeft = c.config.maxRounds - 1
  asked : asked = rs.flatMap (Round.matters c.config.parallelTools)
  faithful : ∀ r ∈ rs, r.Faithful c.config.parallelTools ∧ r.fatal = none
  history : c'.history = (c.opened text).history ++ rs.flatMap Round.messages

theorem Goes.plays {text : String} (hgoes : Goes ((c.opened text).enter (.requesting 1)) rs es c') :
    c.Plays text rs (es.map (·.matter)) c' := by
  have hconfig : ((c.opened text).enter (.requesting 1)).config = c.config := opened_config c text
  have hleft : rs.length + c'.roundsLeft = (c.opened text).config.maxRounds - 1 := hgoes.roundsLeft
  have hasked := hgoes.matters
  have hfaithful := hgoes.faithful
  rw [opened_config] at hleft
  rw [hconfig] at hasked hfaithful
  exact ⟨hgoes.config.trans hconfig, hleft, hasked, hfaithful, hgoes.history⟩

/-- However a turn ends, it only appends to the history. -/
theorem Ends.appends (hends : Ends c es (result, c')) : c.history <+: c'.history := by
  cases hends with
  | halted | stopped | answered | forced => exact List.prefix_append c.history _
  | failed | exceeded => exact List.prefix_refl c.history
  | lost hopens =>
      show c.history <+: (c.played _).history
      rw [played_history hopens]
      exact List.prefix_append c.history _
  | interrupted =>
      exact (List.prefix_append c.history _).trans ((List.prefix_append _ _).trans (List.prefix_append _ _))

/-- A turn only appends to the history, in any conversation. -/
theorem turn_appends (c : Conversation) (text : String) (w : World σ) (s : σ) :
    c.history <+: ((c.turn text).run w s).1.2.history := by
  obtain ⟨rs, es₁, es₂, c₁, _, hgoes, hends⟩ := leads_turn (Dialogue.leads_run w (c.turn text) s)
  have hopened : c.history <+: (c.opened text).history := by
    rw [opened_history]
    exact List.prefix_append c.history _
  have hplayed : (c.opened text).history <+: c₁.history := by
    rw [hgoes.plays.history]
    exact List.prefix_append _ _
  exact hopened.trans (hplayed.trans hends.appends)

/-- What a turn adds to a conversation: the user's text, the batches of some rounds with all their
results, and the answer. -/
structure Adds (c : Conversation) (text : String) (rs : List Round) (result : TurnResult) (c' : Conversation) : Prop where
  config : c'.config = c.config
  rounds : rs.length ≤ c.config.maxRounds - 1
  answered : ∀ r ∈ rs, r.Answered
  history : c'.history = (c.opened text).history ++ rs.flatMap Round.messages ++ closing result
  settled : c'.history.Settled

/-- A turn that starts with a settled history leaves a settled one, and sends all of it in between. -/
theorem adds_of_leads {text : String} (hleads : (c.turn text).Leads es (result, c')) (hs : c.history.Settled)
    (hfresh : ∀ e ∈ es, e.IdsFresh) : (∃ rs, c.Adds text rs result c') ∧ ∀ e ∈ es, e.Whole := by
  obtain ⟨rs, es₁, es₂, c₁, rfl, hgoes, hends⟩ := leads_turn hleads
  have hfresh₁ : ∀ e ∈ es₁, e.IdsFresh := fun e he => hfresh e (List.mem_append_left _ he)
  have hfresh₂ : ∀ e ∈ es₂, e.IdsFresh := fun e he => hfresh e (List.mem_append_right _ he)
  obtain ⟨hsettled, hwhole⟩ := hgoes.settled (opened_settled hs text) hfresh₁
  obtain ⟨last, hlast, hanswered, hhistory, hfinal⟩ := hends.history hsettled hfresh₂
  have hplays := hgoes.plays
  refine ⟨⟨rs ++ last, ?_, ?_, ?_, ?_, hfinal⟩, fun e he => ?_⟩
  · exact hends.config.trans hplays.config
  · have hleft := hplays.left
    rw [List.length_append]
    omega
  · intro r hr
    rcases List.mem_append.mp hr with hr | hr
    · exact (hplays.faithful r hr).1.answered
    · exact hanswered r hr
  · rw [hhistory, hplays.history, List.flatMap_append, List.append_assoc _ (rs.flatMap _)]
  · rcases List.mem_append.mp he with he | he
    · exact hwhole e he
    · exact hends.whole hsettled e he

end Conversation

end Colloquy
