import Colloquy.Proofs.Conversation.Renewal
import Colloquy.Proofs.Turn.Batch

/-! The course of a turn. A turn plays rounds in which the model asks for calls and all of them are
answered (`Goes`), until something ends it (`Ends`); `leads_turn` says that every run of a turn is of
this form. What a turn keeps is then proved round by round. -/

namespace Colloquy

/-- A round in which the model asked for calls. -/
structure Round where
  snapshot : Snapshot
  tools : List ToolSchema
  text : Option String
  /-- The calls as the model wrote them. -/
  asked : List ToolCall
  /-- The calls as they were taken into the history. -/
  issued : List ToolCall
  /-- The outcomes of those calls that were made, in order. -/
  made : List ToolOutcome

namespace Round

/-- The first fatal error of the round. -/
def fatal (r : Round) : Option ToolError := firstFatalOf r.made

/-- What the round adds to the history. -/
def messages (r : Round) : History := .assistant r.text r.issued :: resultsOf r.issued (outcomesOf r.issued r.made)

/-- The completion that asks for the calls. -/
def request (r : Round) : Matter := .completion r.snapshot r.tools (some (.ok (.batch r.text r.asked)))

/-- The questions of the round. -/
def matters (parallel : Bool) (r : Round) : List Matter := r.request :: invocations parallel r.issued r.made

end Round

/-- The answer that a completion gives if it wants no calls. -/
def Completion.answer? : Completion → Option String
  | .answer text => some text
  | .batch text [] => some (text.getD "")
  | .batch _ (_ :: _) => none

namespace Conversation

/-- The number of the round under way. -/
def round (c : Conversation) : Nat :=
  match c.phase with
  | .requesting n => n
  | _ => 0

/-- How many rounds may follow the one under way. -/
def roundsLeft (c : Conversation) : Nat := c.config.maxRounds - c.round

variable {σ : Type} {es : List (Exchange Conversation σ)} {result : TurnResult × Conversation}

/-! ### Rounds -/

/-- The exchange is the request of the round under way, with what comes of it. -/
structure Asks (c : Conversation) (answer : Option CompletionResult) (e : Exchange Conversation σ) : Prop where
  asker : e.asker = c
  matter : e.matter = .completion c.history.snapshot (c.offered (c.roundsLeft == 0)) answer

/-- The conversation after the batch of a round was taken into the history. -/
def issuing (c : Conversation) (r : Round) : Conversation := (c.issue c.round r.text r.asked).2

/-- The conversation after a round. -/
def played (c : Conversation) (r : Round) : Conversation :=
  (c.issuing r).gains (resultsOf r.issued (outcomesOf r.issued r.made))

/-- The conversation opens the round with its request, and another round may follow. -/
structure Opens (c : Conversation) (r : Round) (e : Exchange Conversation σ) : Prop where
  snapshot : r.snapshot = c.history.snapshot
  tools : r.tools = c.schemas
  asked : r.asked ≠ []
  issued : r.issued = (c.issue c.round r.text r.asked).1
  left : 0 < c.roundsLeft
  asks : c.Asks (some (.ok (.batch r.text r.asked))) e

/-- Rounds that are played to their end, without a fatal error. -/
inductive Goes : Conversation → List Round → List (Exchange Conversation σ) → Conversation → Prop where
  | nil (c : Conversation) : Goes c [] [] c
  | cons {c c' : Conversation} {r : Round} {rs : List Round} {e : Exchange Conversation σ}
      {es es' : List (Exchange Conversation σ)} (hopens : c.Opens r e)
      (hmade : MadeInFull c.config.parallelTools r.issued r.made)
      (hes : es.map (·.matter) = invocations c.config.parallelTools r.issued r.made) (hfatal : r.fatal = none)
      (hrest : Goes ((c.played r).enter (.requesting (c.round + 1))) rs es' c') :
      Goes c (r :: rs) (e :: (es ++ es')) c'

/-- How a turn ends in the round under way: without a batch that is carried out, with a batch that meets
a fatal error, or by cancellation within a batch. -/
inductive Ends (c : Conversation) : List (Exchange Conversation σ) → TurnResult × Conversation → Prop where
  | halted : Ends c [] (.error .cancelled, c.stopped)
  | stopped {e : Exchange Conversation σ} (hasks : c.Asks none e) : Ends c [e] (.error .cancelled, c.stopped)
  | failed {e : Exchange Conversation σ} {error : CompletionError} (hasks : c.Asks (some (.error error)) e) :
      Ends c [e] (.error (.completion error), c.enter .awaitingInput)
  | answered {e : Exchange Conversation σ} {completion : Completion} {text : String}
      (hasks : c.Asks (some (.ok completion)) e) (hanswer : completion.answer? = some text) :
      Ends c [e] (.ok text, ((c.gains [.answer text]).enter .answered).enter .awaitingInput)
  | forced {e : Exchange Conversation σ} {text : Option String} {calls : List ToolCall}
      (hasks : c.Asks (some (.ok (.batch text calls))) e) (hcalls : calls ≠ []) (hleft : c.roundsLeft = 0)
      (hlimit : c.config.roundLimit = .forceAnswer) :
      Ends c [e] (.ok (text.getD ""), ((c.gains [.answer (text.getD "")]).enter .answered).enter .awaitingInput)
  | exceeded {e : Exchange Conversation σ} {text : Option String} {calls : List ToolCall}
      (hasks : c.Asks (some (.ok (.batch text calls))) e) (hcalls : calls ≠ []) (hleft : c.roundsLeft = 0)
      (hlimit : c.config.roundLimit = .error) :
      Ends c [e] (.error (.roundLimit c.config.maxRounds), c.enter .awaitingInput)
  | lost {r : Round} {e : Exchange Conversation σ} {es : List (Exchange Conversation σ)} {error : ToolError}
      (hopens : c.Opens r e) (hmade : MadeInFull c.config.parallelTools r.issued r.made)
      (hes : es.map (·.matter) = invocations c.config.parallelTools r.issued r.made) (hfatal : r.fatal = some error) :
      Ends c (e :: es) (.error (.protocol error.message), (c.played r).enter .awaitingInput)
  | interrupted {r : Round} {e : Exchange Conversation σ} {es : List (Exchange Conversation σ)}
      (hopens : c.Opens r e) (hmade : MadeInPart c.config.parallelTools r.issued r.made)
      (hes : BrokenOff c.config.parallelTools r.issued r.made (es.map (·.matter))) :
      Ends c (e :: es) (.error .cancelled, ((c.issuing r).gains (resultsOf r.issued r.made)).stopped)

theorem issue_ne_nil (c : Conversation) (round : Nat) (text : Option String) {asked : List ToolCall}
    (hasked : asked ≠ []) : (c.issue round text asked).1 ≠ [] := by
  rw [← List.length_pos_iff] at hasked ⊢
  rw [issue, renewIds_length]
  exact hasked

theorem opened_config (c : Conversation) (text : String) : (c.opened text).config = c.config := by
  unfold opened
  split <;> rfl

/-- A request for a completion ends the turn, or brings a completion with which it goes on. -/
theorem leads_request {c : Conversation} {isFinal : Bool} {next : Completion → Turn}
    (hfinal : (c.roundsLeft == 0) = isFinal) (hleads : (c.request isFinal next).Leads es result) :
    Ends c es result ∨ ∃ completion e es', es = e :: es' ∧ c.Asks (some (.ok completion)) e ∧
      (next completion).Leads es' result := by
  rw [request] at hleads
  rcases hleads with _ | ⟨⟨⟩⟩ | hgo
  · exact Or.inl .halted
  cases hgo with
  | complete answer before after hnext =>
      have hasks : c.Asks answer ⟨c, .completion _ _ answer, before, after⟩ := ⟨rfl, by rw [hfinal]⟩
      rcases answer with _ | error | completion
      · cases hnext
        exact Or.inl (.stopped hasks)
      · cases hnext
        exact Or.inl (.failed hasks)
      · exact Or.inr ⟨completion, _, _, rfl, hasks, hnext⟩

/-- Every course of the rounds of a turn: full rounds, and how the turn ends. -/
theorem leads_rounds {c : Conversation} {round left : Nat} (hleft : left = c.config.maxRounds - round)
    (hleads : (c.rounds round left).Leads es result) :
    ∃ rs es₁ es₂ c', es = es₁ ++ es₂ ∧ Goes (c.enter (.requesting round)) rs es₁ c' ∧ Ends c' es₂ result := by
  induction left generalizing c round es with
  | zero =>
      refine ⟨[], [], es, c.enter (.requesting round), rfl, .nil _, ?_⟩
      have hzero : (c.enter (.requesting round)).roundsLeft = 0 := hleft.symm
      have hfinal : ((c.enter (.requesting round)).roundsLeft == 0) = true := by rw [hzero]; rfl
      rw [rounds] at hleads
      rcases leads_request hfinal hleads with hends | ⟨completion, e, es, rfl, hasks, hnext⟩
      · exact hends
      rcases completion with text | ⟨text, _ | ⟨call, calls⟩⟩
      · cases hnext
        exact .answered hasks rfl
      · cases hnext
        exact .answered hasks rfl
      · dsimp only [atLimit] at hnext
        split at hnext
        · next hlimit =>
            cases hnext
            exact .forced hasks (List.cons_ne_nil call calls) hzero hlimit
        · next hlimit =>
            cases hnext
            exact .exceeded hasks (List.cons_ne_nil call calls) hzero hlimit
  | succ left ih =>
      have hpos : 0 < (c.enter (.requesting round)).roundsLeft := Nat.lt_of_lt_of_eq (Nat.succ_pos left) hleft
      have hfinal : ((c.enter (.requesting round)).roundsLeft == 0) = false := by
        rw [beq_eq_false_iff_ne]
        exact Nat.ne_of_gt hpos
      rw [rounds] at hleads
      rcases leads_request hfinal hleads with hends | ⟨completion, e, es, rfl, hasks, hnext⟩
      · exact ⟨[], [], _, _, rfl, .nil _, hends⟩
      rcases completion with text | ⟨text, _ | ⟨call, calls⟩⟩
      · cases hnext
        exact ⟨[], [], _, _, rfl, .nil _, .answered hasks rfl⟩
      · cases hnext
        exact ⟨[], [], _, _, rfl, .nil _, .answered hasks rfl⟩
      · -- a round of its own; the induction goes on behind it if no call was fatal
        dsimp only at hnext
        have hissued := (c.enter (.requesting round)).issue_ne_nil round text (List.cons_ne_nil call calls)
        have hopens : ∀ made, (c.enter (.requesting round)).Opens ⟨_, _, text, call :: calls, _, made⟩ e :=
          fun made => ⟨rfl, rfl, List.cons_ne_nil call calls, rfl, hpos, hasks⟩
        cases leads_execute hissued hnext with
        | @inFull made es es' _ hmade hes hnext =>
            cases hfatal : firstFatalOf made with
            | some error =>
                rw [hfatal] at hnext
                cases hnext
                refine ⟨[], [], _, _, rfl, .nil _, ?_⟩
                rw [List.append_nil]
                exact .lost (hopens made) hmade hes hfatal
            | none =>
                rw [hfatal] at hnext
                have hleft' : left = c.config.maxRounds - (round + 1) := by omega
                obtain ⟨rs, es₁, es₂, c', rfl, hgoes, hends⟩ := ih (by exact hleft') hnext
                refine ⟨_ :: rs, e :: (es ++ es₁), es₂, c', ?_, .cons (hopens made) hmade hes hfatal hgoes, hends⟩
                rw [List.cons_append, List.append_assoc]
        | @inPart made es hmade hes =>
            exact ⟨[], [], _, _, rfl, .nil _, .interrupted (hopens made) hmade hes⟩

/-- Every course of a turn. -/
theorem leads_turn {c : Conversation} {text : String} (hleads : (c.turn text).Leads es result) :
    ∃ rs es₁ es₂ c', es = es₁ ++ es₂ ∧ Goes ((c.opened text).enter (.requesting 1)) rs es₁ c' ∧ Ends c' es₂ result := by
  refine leads_rounds ?_ hleads
  rw [opened_config]

end Conversation

end Colloquy
