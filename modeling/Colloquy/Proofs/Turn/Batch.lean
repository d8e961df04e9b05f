import Colloquy.Proofs.Conversation.Pairing
import Colloquy.Proofs.Turn.Trace
import Colloquy.Turn.Basic

/-! How the calls of a batch are carried out. Whether one after another or all at the same time, either
all the calls due are made and the turn goes on, or it is cancelled in between (`leads_execute`). The
calls due are all of them, or those up to the first fatal error; the others are answered unmade. -/

namespace Colloquy

/-- The error of an outcome that ends the session with the tools: a protocol error and no other. -/
def fatalError? : ToolOutcome → Option ToolError
  | .error (.protocol reason) => some (.protocol reason)
  | _ => none

/-- The first such error among outcomes. -/
def firstFatalOf (outcomes : List ToolOutcome) : Option ToolError := outcomes.findSome? fatalError?

/-- The outcomes of all calls of a batch, of which only some were made: the others are refused after a
fatal error, and cancelled without one. -/
def outcomesOf (calls : List ToolCall) (made : List ToolOutcome) : List ToolOutcome :=
  made ++ List.replicate (calls.length - made.length) (match firstFatalOf made with
    | some e => Conversation.notExecuted e
    | none => .error .cancelled)

/-- The calls of a batch that the turn makes if nobody cancels it, given by their outcomes: all of them
at the same time, or one after another up to the first fatal error. -/
def MadeInFull (parallel : Bool) (calls : List ToolCall) (made : List ToolOutcome) : Prop :=
  if parallel then made.length = calls.length
  else firstFatalOf made.dropLast = none ∧
    (made.length = calls.length ∨ made.length < calls.length ∧ firstFatalOf made ≠ none)

/-- The calls of a batch that have been made when the turn is cancelled. -/
def MadeInPart (parallel : Bool) (calls : List ToolCall) (made : List ToolOutcome) : Prop :=
  made.length < calls.length ∧ firstFatalOf made = none ∧ (parallel = true → made = [])

theorem outcomesOf_length {calls : List ToolCall} {made : List ToolOutcome} (hle : made.length ≤ calls.length) :
    (outcomesOf calls made).length = calls.length := by
  rw [outcomesOf, List.length_append, List.length_replicate]
  omega

theorem MadeInFull.length_le {parallel : Bool} {calls : List ToolCall} {made : List ToolOutcome}
    (hmade : MadeInFull parallel calls made) : made.length ≤ calls.length := by
  unfold MadeInFull at hmade
  split at hmade
  · omega
  · rcases hmade.2 with heq | ⟨hlt, _⟩ <;> omega

/-- The questions for calls that have been made one after another. -/
def singly (calls : List ToolCall) (made : List ToolOutcome) : List Matter :=
  List.zipWith (fun call outcome => .invocation [call] (some [outcome])) calls made

/-- The questions for calls that have been made. -/
def invocations (parallel : Bool) (calls : List ToolCall) (made : List ToolOutcome) : List Matter :=
  if parallel then [.invocation calls (some made)] else singly calls made

/-- The questions for a batch that was broken off: those for the calls that have been made, and possibly
one more that was not answered. -/
def BrokenOff (parallel : Bool) (calls : List ToolCall) (made : List ToolOutcome) (ms : List Matter) : Prop :=
  ms = singly calls made ∨
    ms = singly calls made ++ [.invocation (if parallel then calls else (calls.drop made.length).take 1) none]

@[simp] theorem singly_nil (calls : List ToolCall) : singly calls [] = [] := List.zipWith_nil_right

theorem singly_cons (call : ToolCall) (calls : List ToolCall) (outcome : ToolOutcome) (made : List ToolOutcome) :
    singly (call :: calls) (outcome :: made) = .invocation [call] (some [outcome]) :: singly calls made := rfl

theorem mem_singly {calls : List ToolCall} {made : List ToolOutcome} {m : Matter} (hm : m ∈ singly calls made) :
    ∃ calls outcomes, m = .invocation calls outcomes := by
  obtain ⟨i, hi, rfl⟩ := List.mem_iff_getElem.mp hm
  simp only [singly, List.getElem_zipWith]
  exact ⟨_, _, rfl⟩

theorem mem_invocations {parallel : Bool} {calls : List ToolCall} {made : List ToolOutcome} {m : Matter}
    (hm : m ∈ invocations parallel calls made) : ∃ calls outcomes, m = .invocation calls outcomes := by
  unfold invocations at hm
  split at hm
  · exact ⟨calls, some made, List.mem_singleton.mp hm⟩
  · exact mem_singly hm

theorem BrokenOff.mem {parallel : Bool} {calls : List ToolCall} {made : List ToolOutcome} {ms : List Matter}
    (hms : BrokenOff parallel calls made ms) {m : Matter} (hm : m ∈ ms) :
    ∃ calls outcomes, m = .invocation calls outcomes := by
  rcases hms with rfl | rfl
  · exact mem_singly hm
  · rcases List.mem_append.mp hm with hm | hm
    · exact mem_singly hm
    · exact ⟨_, none, List.mem_singleton.mp hm⟩

/-- A call that was made comes before what is asked of the others. -/
theorem BrokenOff.cons {call : ToolCall} {calls : List ToolCall} {outcome : ToolOutcome} {made : List ToolOutcome}
    {ms : List Matter} (hms : BrokenOff false calls made ms) :
    BrokenOff false (call :: calls) (outcome :: made) (.invocation [call] (some [outcome]) :: ms) := by
  rcases hms with rfl | rfl
  · exact Or.inl rfl
  · exact Or.inr rfl

namespace Conversation

/-- The conversation with more messages. -/
def gains (c : Conversation) (ms : History) : Conversation := { c with history := c.history ++ ms }

/-- The conversation after a turn that was cancelled. -/
def stopped (c : Conversation) : Conversation :=
  { c with history := c.history.close .cancelled }.enter .awaitingInput

@[simp] theorem gains_nil (c : Conversation) : c.gains [] = c := by simp [gains]

theorem gains_gains (c : Conversation) (ms ms' : History) : (c.gains ms).gains ms' = c.gains (ms ++ ms') := by
  simp [gains]

theorem append_eq_gains (c : Conversation) (m : Message) : c.append m = c.gains [m] := rfl

theorem firstFatal_eq (before : Option ToolError) (outcome : ToolOutcome) :
    firstFatal before outcome = before.or (fatalError? outcome) := by
  cases before with
  | some e => rfl
  | none =>
      cases outcome with
      | ok payload => rfl
      | error e => cases e <;> rfl

theorem recordAll_eq (c : Conversation) (fatal : Option ToolError) {calls : List ToolCall}
    {outcomes : List ToolOutcome} (hlen : outcomes.length = calls.length) :
    c.recordAll fatal (calls.zip outcomes) = (c.gains (resultsOf calls outcomes), fatal.or (firstFatalOf outcomes)) := by
  induction calls generalizing c fatal outcomes with
  | nil =>
      obtain rfl := List.length_eq_zero_iff.mp hlen
      simp [recordAll, firstFatalOf]
  | cons call calls ih =>
      cases outcomes with
      | nil => simp at hlen
      | cons o os =>
          rw [List.zip_cons_cons, recordAll, ih _ _ (by simpa using hlen), append_eq_gains, gains_gains, firstFatal_eq]
          cases fatal <;> cases ho : fatalError? o <;> simp [firstFatalOf, ho]

/-- After a fatal error the rest of a batch is answered without a call. -/
theorem oneByOne_fatal (c : Conversation) (e : ToolError) (next : Conversation → Option ToolError → Turn)
    (calls : List ToolCall) :
    c.oneByOne (some e) next calls = next (c.gains (calls.map (Message.ofOutcome · (notExecuted e)))) (some e) := by
  induction calls generalizing c with
  | nil => simp [oneByOne]
  | cons call calls ih => rw [oneByOne, ih, append_eq_gains, gains_gains, List.map_cons, List.singleton_append]

variable {σ : Type} {next : Conversation → Option ToolError → Turn} {es : List (Exchange Conversation σ)}
  {result : TurnResult × Conversation}

/-- How a batch is carried out: all the calls due are made and the turn goes on, or it is cancelled in
between. -/
inductive Carries (c : Conversation) (parallel : Bool) (calls : List ToolCall)
    (next : Conversation → Option ToolError → Turn) :
    List (Exchange Conversation σ) → TurnResult × Conversation → Prop where
  | inFull {made : List ToolOutcome} {es es' : List (Exchange Conversation σ)} {result : TurnResult × Conversation}
      (hmade : MadeInFull parallel calls made) (hes : es.map (·.matter) = invocations parallel calls made)
      (hnext : (next (c.gains (resultsOf calls (outcomesOf calls made))) (firstFatalOf made)).Leads es' result) :
      Carries c parallel calls next (es ++ es') result
  | inPart {made : List ToolOutcome} {es : List (Exchange Conversation σ)}
      (hmade : MadeInPart parallel calls made) (hes : BrokenOff parallel calls made (es.map (·.matter))) :
      Carries c parallel calls next es (.error .cancelled, (c.gains (resultsOf calls made)).stopped)

/-- A batch may be cancelled before any of its calls has an outcome. -/
theorem Carries.atStart {c : Conversation} {parallel : Bool} {calls : List ToolCall} (hcalls : calls ≠ [])
    (hes : BrokenOff parallel calls [] (es.map (·.matter))) :
    c.Carries parallel calls next es (.error .cancelled, c.stopped) := by
  have hpart : MadeInPart parallel calls [] := ⟨List.length_pos_iff.mpr hcalls, rfl, fun _ => rfl⟩
  have hstop : c.stopped = (c.gains (resultsOf calls [])).stopped := by rw [resultsOf_nil, gains_nil]
  rw [hstop]
  exact .inPart hpart hes

/-- A call that was made without a fatal error comes before what the others lead to. -/
theorem Carries.cons {c : Conversation} {call : ToolCall} {calls : List ToolCall} {outcome : ToolOutcome}
    {e : Exchange Conversation σ} (hfatal : fatalError? outcome = none)
    (he : e.matter = .invocation [call] (some [outcome]))
    (hrest : (c.gains [.ofOutcome call outcome]).Carries false calls next es result) :
    c.Carries false (call :: calls) next (e :: es) result := by
  have hfirst : ∀ made, firstFatalOf (outcome :: made) = firstFatalOf made := fun made => by
    simp [firstFatalOf, hfatal]
  cases hrest with
  | @inFull made es es' _ hmade hes hnext =>
      rw [← List.cons_append]
      have hfull : MadeInFull false (call :: calls) (outcome :: made) := by
        simp only [MadeInFull, Bool.false_eq_true, if_false, List.length_cons, Nat.add_right_cancel_iff,
          Nat.add_lt_add_iff_right, hfirst] at hmade ⊢
        refine ⟨?_, hmade.2⟩
        cases made with
        | nil => rfl
        | cons o os =>
            rw [List.dropLast_cons_cons, hfirst]
            exact hmade.1
      apply Carries.inFull hfull
      · rw [List.map_cons, he, hes]
        rfl
      · rw [hfirst]
        simpa [outcomesOf, hfirst, gains_gains] using hnext
  | @inPart made es hmade hes =>
      have hconv : (c.gains [.ofOutcome call outcome]).gains (resultsOf calls made) =
          c.gains (resultsOf (call :: calls) (outcome :: made)) := gains_gains c _ _
      rw [hconv]
      refine .inPart ⟨Nat.succ_lt_succ hmade.1, ?_, by simp⟩ ?_
      · rw [hfirst]
        exact hmade.2.1
      · rw [List.map_cons, he]
        exact hes.cons

theorem leads_oneByOne {c : Conversation} {calls : List ToolCall}
    (hleads : (c.oneByOne none next calls).Leads es result) : c.Carries false calls next es result := by
  induction calls generalizing c es with
  | nil =>
      have hfull : MadeInFull false [] [] := ⟨rfl, Or.inl rfl⟩
      rw [← List.nil_append es]
      apply Carries.inFull hfull
      · rfl
      · simpa [outcomesOf, oneByOne, firstFatalOf] using hleads
  | cons call calls ih =>
      rw [oneByOne] at hleads
      rcases hleads with _ | ⟨⟨⟩⟩ | hgo
      · exact .atStart (List.cons_ne_nil call calls) (Or.inl rfl)
      cases hgo with
      | invoke outcomes before after hnext =>
          cases outcomes with
          | none =>
              cases hnext
              exact .atStart (List.cons_ne_nil call calls) (Or.inr rfl)
          | some outcomes =>
              have hone : outcomes.toList = [outcomes[0]] := by
                apply List.ext_getElem
                · simp
                · intro i hi _
                  obtain rfl : i = 0 := by simpa using hi
                  rfl
              rw [Option.map_some, hone]
              simp only [firstFatal_eq, Option.none_or, append_eq_gains] at hnext
              -- behind a fatal outcome the rest is refused at once, so this call was the last one made
              cases hfatal : fatalError? outcomes[0] with
              | none =>
                  rw [hfatal] at hnext
                  exact (ih hnext).cons hfatal rfl
              | some e =>
                  rw [hfatal, oneByOne_fatal] at hnext
                  have hfirst : firstFatalOf [outcomes[0]] = some e := by simp [firstFatalOf, hfatal]
                  have hfull : MadeInFull false (call :: calls) [outcomes[0]] := by
                    refine ⟨rfl, ?_⟩
                    rw [hfirst, List.length_singleton, List.length_cons]
                    rcases Nat.eq_zero_or_pos calls.length with hzero | hpos
                    · exact Or.inl (by omega)
                    · exact Or.inr ⟨by omega, Option.some_ne_none e⟩
                  show c.Carries false (call :: calls) next ([_] ++ _) result
                  apply Carries.inFull hfull
                  · simp [invocations, singly_cons]
                  · rw [outcomesOf, resultsOf_replicate, hfirst]
                    simpa [gains_gains] using hnext

theorem leads_atOnce {c : Conversation} {calls : List ToolCall} (hcalls : calls ≠ [])
    (hleads : (c.atOnce next calls).Leads es result) : c.Carries true calls next es result := by
  rw [atOnce] at hleads
  rcases hleads with _ | ⟨⟨⟩⟩ | hgo
  · exact .atStart hcalls (Or.inl (singly_nil calls).symm)
  cases hgo with
  | invoke outcomes before after hnext =>
      cases outcomes with
      | none =>
          cases hnext
          exact .atStart hcalls (Or.inr (by rw [singly_nil]; rfl))
      | some outcomes =>
          have hlen : outcomes.toList.length = calls.length := outcomes.length_toList
          simp only [recordAll_eq c none hlen, Option.none_or] at hnext
          have hall : outcomesOf calls outcomes.toList = outcomes.toList := by
            rw [outcomesOf, hlen, Nat.sub_self, List.replicate_zero, List.append_nil]
          have hfull : MadeInFull true calls outcomes.toList := hlen
          show c.Carries true calls next ([_] ++ _) result
          apply Carries.inFull hfull
          · rfl
          · rw [hall]
            exact hnext

theorem leads_execute {c : Conversation} {calls : List ToolCall} (hcalls : calls ≠ [])
    (hleads : (c.execute calls next).Leads es result) :
    c.Carries c.config.parallelTools calls next es result := by
  rw [execute] at hleads
  split at hleads
  · next hparallel =>
      rw [hparallel]
      exact leads_atOnce hcalls hleads
  · next hserial =>
      rw [Bool.eq_false_iff.mpr hserial]
      exact leads_oneByOne hleads

end Conversation

end Colloquy
