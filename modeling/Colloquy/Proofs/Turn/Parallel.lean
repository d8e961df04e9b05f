import Colloquy.Proofs.Turn.Reach

/-! Making the calls of a batch at the same time or one after another. In a world whose answers do not depend
on that, a turn comes to the same result and requests the same completions. Batches without a fatal error leave
the same results (`run_oneByOne_calm`); in one with a fatal error, which is the last, both modes report the
first such error, and only the results of the calls behind it differ (`run_oneByOne_fatal`). -/

namespace Colloquy

/-- The requests that a completion service got, in order. -/
abbrev RequestLog := List (Snapshot × List ToolSchema)

/-- A world in which nothing is cancelled, a completion depends on the requests so far, and the outcome of a
call on its name and arguments. -/
def World.functional (reply : RequestLog → CompletionResult) (outcome : String → Json → ToolOutcome) :
    World RequestLog where
  cancelled _ := false
  complete snapshot tools asked := (some (reply (asked ++ [(snapshot, tools)])), asked ++ [(snapshot, tools)])
  invoke calls asked := (some ⟨(calls.map fun call => outcome call.toolName call.arguments).toArray, by simp⟩, asked)

section

variable (outcome : String → Json → ToolOutcome)

/-- The fatal error of a call, if it comes to one. -/
def ToolCall.fatal? (call : ToolCall) : Option ToolError := fatalError? (outcome call.toolName call.arguments)

/-- The result of a call that is made. -/
def ToolCall.ownResult (call : ToolCall) : Message := .ofOutcome call (outcome call.toolName call.arguments)

/-- None of the calls comes to a fatal error. -/
def Calm (calls : List ToolCall) : Prop := ∀ call ∈ calls, call.fatal? outcome = none

/-- Where two histories part, of which the first comes about with one call after another and the second with
calls at the same time: nowhere, or in the last batch, behind the first call that comes to a fatal error. -/
inductive Parting : History → History → Prop where
  | nowhere {added : History} (hcalm : Calm outcome added.calls) : Parting added added
  | behind {added : History} {text : Option String} {before rest : List ToolCall} {call : ToolCall} {e : ToolError}
      (hcalm : Calm outcome (added.calls ++ before)) (hfatal : call.fatal? outcome = some e) :
      Parting
        (added ++ .assistant text (before ++ call :: rest) :: ((before ++ [call]).map (·.ownResult outcome) ++
          rest.map (Message.ofOutcome · (Conversation.notExecuted e))))
        (added ++ .assistant text (before ++ call :: rest) :: ((before ++ [call]).map (·.ownResult outcome) ++
          rest.map (·.ownResult outcome)))

end

variable {outcome : String → Json → ToolOutcome}

theorem resultsOf_map (calls : List ToolCall) :
    resultsOf calls (calls.map fun call => outcome call.toolName call.arguments) = calls.map (·.ownResult outcome) := by
  rw [resultsOf, List.zipWith_map_right, List.zipWith_self]
  rfl

theorem firstFatalOf_map (calls : List ToolCall) :
    firstFatalOf (calls.map fun call => outcome call.toolName call.arguments) =
      calls.findSome? (ToolCall.fatal? outcome) := by
  rw [firstFatalOf, List.findSome?_map]
  rfl

theorem Calm.findSome? {calls : List ToolCall} (hcalm : Calm outcome calls) :
    calls.findSome? (ToolCall.fatal? outcome) = none := List.findSome?_eq_none_iff.mpr hcalm

theorem calm_or_fatal (outcome : String → Json → ToolOutcome) (calls : List ToolCall) : Calm outcome calls ∨
    ∃ before call rest e, calls = before ++ call :: rest ∧ Calm outcome before ∧ call.fatal? outcome = some e := by
  cases hfatal : calls.findSome? (ToolCall.fatal? outcome) with
  | none => exact .inl (List.findSome?_eq_none_iff.mp hfatal)
  | some e =>
      obtain ⟨before, call, rest, hcalls, hcall, hbefore⟩ := List.findSome?_eq_some_iff.mp hfatal
      exact .inr ⟨before, call, rest, e, hcalls, hbefore, hcall⟩

theorem calls_ownResults (calls : List ToolCall) : History.calls (calls.map (·.ownResult outcome)) = [] := by
  rw [History.calls, List.flatMap_map, List.flatMap_eq_nil_iff]
  exact fun call _ => Message.calls_ofOutcome call _

/-- Calls without a fatal error come before a parting. -/
theorem Parting.after {first added added' : History} (hcalm : Calm outcome first.calls)
    (hparting : Parting outcome added added') : Parting outcome (first ++ added) (first ++ added') := by
  cases hparting with
  | nowhere hrest =>
      refine .nowhere ?_
      rw [History.calls_append]
      exact List.forall_mem_append.mpr ⟨hcalm, hrest⟩
  | behind hrest hfatal =>
      rw [← List.append_assoc, ← List.append_assoc]
      refine .behind ?_ hfatal
      rw [History.calls_append, List.append_assoc]
      exact List.forall_mem_append.mpr ⟨hcalm, hrest⟩

/-- Without a fatal error there is no parting. -/
theorem Parting.eq_of_calm {added added' : History} (hparting : Parting outcome added added')
    (hcalm : Calm outcome added.calls) : added = added' := by
  cases hparting with
  | nowhere => rfl
  | @behind first text before rest call e hbefore hfatal =>
      have hmember : call ∈ (Message.assistant text (before ++ call :: rest)).calls :=
        List.mem_append_right before List.mem_cons_self
      rw [History.calls_append, History.calls_cons] at hcalm
      have hnone := hcalm call (List.mem_append_right _ (List.mem_append_left _ hmember))
      rw [hfatal] at hnone
      cases hnone

namespace Conversation

/-- The conversation with the setting whether calls are made at the same time. -/
def inMode (c : Conversation) (parallel : Bool) : Conversation :=
  { c with config := { c.config with parallelTools := parallel } }

variable {reply : RequestLog → CompletionResult} {next : Conversation → Option ToolError → Turn} {asked : RequestLog}

/-! ### One batch -/

theorem run_atOnce (c : Conversation) (calls : List ToolCall) :
    (c.atOnce next calls).run (.functional reply outcome) asked =
      (next (c.gains (calls.map (·.ownResult outcome))) (calls.findSome? (ToolCall.fatal? outcome))).run
        (.functional reply outcome) asked := by
  have hlen : (calls.map fun call => outcome call.toolName call.arguments).length = calls.length := List.length_map _
  have hrecord := recordAll_eq c none hlen
  rw [resultsOf_map, firstFatalOf_map, Option.none_or] at hrecord
  calc (c.atOnce next calls).run (.functional reply outcome) asked
      = (next
          (c.recordAll none (calls.zip (calls.map fun call => outcome call.toolName call.arguments))).1
          (c.recordAll none (calls.zip (calls.map fun call => outcome call.toolName call.arguments))).2).run
            (.functional reply outcome) asked := rfl
    _ = _ := by rw [hrecord]

theorem run_oneByOne_cons (c : Conversation) (call : ToolCall) (calls : List ToolCall) :
    (c.oneByOne none next (call :: calls)).run (.functional reply outcome) asked =
      ((c.gains [call.ownResult outcome]).oneByOne (call.fatal? outcome) next calls).run
        (.functional reply outcome) asked := by
  rw [ToolCall.fatal?, ← Option.none_or (o := fatalError? _), ← firstFatal_eq]
  rfl

/-- Calls without a fatal error are made one after another. -/
theorem run_oneByOne_calm {calls : List ToolCall} (hcalm : Calm outcome calls) (c : Conversation)
    (rest : List ToolCall) :
    (c.oneByOne none next (calls ++ rest)).run (.functional reply outcome) asked =
      ((c.gains (calls.map (·.ownResult outcome))).oneByOne none next rest).run (.functional reply outcome) asked := by
  induction calls generalizing c with
  | nil => rw [List.map_nil, gains_nil, List.nil_append]
  | cons call calls ih =>
      obtain ⟨hcall, hcalls⟩ := List.forall_mem_cons.mp hcalm
      rw [List.cons_append, run_oneByOne_cons, hcall, ih hcalls, gains_gains, List.map_cons, List.singleton_append]

/-- Calls behind one with a fatal error are not made. -/
theorem run_oneByOne_fatal {before : List ToolCall} {call : ToolCall} {e : ToolError} (hcalm : Calm outcome before)
    (hfatal : call.fatal? outcome = some e) (c : Conversation) (rest : List ToolCall) :
    (c.oneByOne none next (before ++ call :: rest)).run (.functional reply outcome) asked =
      (next (c.gains ((before ++ [call]).map (·.ownResult outcome) ++
        rest.map (Message.ofOutcome · (notExecuted e)))) (some e)).run (.functional reply outcome) asked := by
  rw [run_oneByOne_calm hcalm, run_oneByOne_cons, hfatal, oneByOne_fatal, gains_gains, gains_gains, List.map_append,
    List.append_assoc]
  rfl

/-! ### One turn in both modes -/

/-- What two runs come to that start with the same history: the same result after the same requests, with
histories that part nowhere or behind a fatal error. -/
structure Agree (outcome : String → Json → ToolOutcome) (h : History)
    (serial parallel : (TurnResult × Conversation) × RequestLog) : Prop where
  result : serial.1.1 = parallel.1.1
  requests : serial.2 = parallel.2
  history : ∃ added added', serial.1.2.history = h ++ added ∧ parallel.1.2.history = h ++ added' ∧
    Parting outcome added added'

theorem Agree.after {h added : History} {serial parallel : (TurnResult × Conversation) × RequestLog}
    (hcalm : Calm outcome added.calls) (hagree : Agree outcome (h ++ added) serial parallel) :
    Agree outcome h serial parallel := by
  obtain ⟨more, more', hserial, hparallel, hparting⟩ := hagree.history
  refine ⟨hagree.result, hagree.requests, added ++ more, added ++ more', ?_, ?_, hparting.after hcalm⟩
  · rw [hserial, List.append_assoc]
  · rw [hparallel, List.append_assoc]

/-- Both runs end the turn, with the same messages. -/
theorem Agree.done {h added : History} {result : TurnResult} {c₁ c₂ : Conversation} (hcalls : added.calls = [])
    (hserial : c₁.history = h ++ added) (hparallel : c₂.history = h ++ added) :
    Agree outcome h ((result, c₁), asked) ((result, c₂), asked) := by
  refine ⟨rfl, rfl, added, added, hserial, hparallel, .nowhere ?_⟩
  rw [hcalls]
  exact nofun

theorem Agree.unchanged {h : History} {result : TurnResult} {c₁ c₂ : Conversation} (hserial : c₁.history = h)
    (hparallel : c₂.history = h) : Agree outcome h ((result, c₁), asked) ((result, c₂), asked) :=
  .done History.calls_nil (hserial.trans (List.append_nil h).symm) (hparallel.trans (List.append_nil h).symm)

theorem run_request (c : Conversation) (isFinal : Bool) (next : Completion → Turn) :
    (c.request isFinal next).run (.functional reply outcome) asked =
      (match reply (asked ++ [(c.history.snapshot, c.offered isFinal)]) with
        | .error e => c.finish (.error (.completion e))
        | .ok completion => next completion).run
          (.functional reply outcome) (asked ++ [(c.history.snapshot, c.offered isFinal)]) := by
  unfold request
  simp only [Dialogue.run, World.functional, Bool.false_eq_true, if_false]
  cases reply (asked ++ [(c.history.snapshot, c.offered isFinal)]) <;> rfl

theorem Agree.request {c : Conversation} {isFinal : Bool} {next next' : Completion → Turn}
    (hnext : ∀ completion asked, Agree outcome c.history ((next completion).run (.functional reply outcome) asked)
      ((next' completion).run (.functional reply outcome) asked)) :
    Agree outcome c.history (((c.inMode false).request isFinal next).run (.functional reply outcome) asked)
      (((c.inMode true).request isFinal next').run (.functional reply outcome) asked) := by
  rw [run_request, run_request]
  show Agree outcome c.history
    ((match reply (asked ++ [(c.history.snapshot, c.offered isFinal)]) with
      | .error e => _
      | .ok completion => _ : Turn).run _ (asked ++ [(c.history.snapshot, c.offered isFinal)]))
    ((match reply (asked ++ [(c.history.snapshot, c.offered isFinal)]) with
      | .error e => _
      | .ok completion => _ : Turn).run _ (asked ++ [(c.history.snapshot, c.offered isFinal)]))
  cases reply (asked ++ [(c.history.snapshot, c.offered isFinal)]) with
  | error e => exact .unchanged rfl rfl
  | ok completion => exact hnext completion _

theorem Agree.answer (c : Conversation) (text : String) :
    Agree outcome c.history (((c.inMode false).answer text).run (.functional reply outcome) asked)
      (((c.inMode true).answer text).run (.functional reply outcome) asked) := by
  have hcalls : History.calls [.answer text] = [] := rfl
  exact .done hcalls rfl rfl

theorem Agree.atLimit (c : Conversation) (text : Option String) :
    Agree outcome c.history (((c.inMode false).atLimit text).run (.functional reply outcome) asked)
      (((c.inMode true).atLimit text).run (.functional reply outcome) asked) := by
  have hlimit (parallel : Bool) : (c.inMode parallel).config.roundLimit = c.config.roundLimit := rfl
  unfold Conversation.atLimit
  rw [hlimit, hlimit]
  cases c.config.roundLimit with
  | forceAnswer => exact .answer c _
  | error => exact .unchanged rfl rfl

/-- Carrying out a batch comes to the same in both modes if going on does. -/
theorem Agree.execute {c : Conversation} {h : History} {text : Option String} {calls : List ToolCall}
    (hhistory : c.history = h ++ [.assistant text calls])
    (hcalm : ∀ (c : Conversation) asked, Agree outcome c.history
      ((next (c.inMode false) none).run (.functional reply outcome) asked)
      ((next (c.inMode true) none).run (.functional reply outcome) asked))
    (hfatal : ∀ c e, next c (some e) = c.finish (.error (.protocol e.message))) :
    Agree outcome h (((c.inMode false).execute calls next).run (.functional reply outcome) asked)
      (((c.inMode true).execute calls next).run (.functional reply outcome) asked) := by
  have hserial : (c.inMode false).execute calls next = (c.inMode false).oneByOne none next calls := rfl
  have hparallel : (c.inMode true).execute calls next = (c.inMode true).atOnce next calls := rfl
  rw [hserial, hparallel, run_atOnce]
  obtain hcalls | ⟨before, call, rest, e, rfl, hbefore, hcall⟩ := calm_or_fatal outcome calls
  · rw [← List.append_nil calls, run_oneByOne_calm hcalls, List.append_nil, oneByOne, hcalls.findSome?]
    have hgoes := hcalm (c.gains (calls.map (·.ownResult outcome))) asked
    have hgained : (c.gains (calls.map (·.ownResult outcome))).history =
        h ++ .assistant text calls :: calls.map (·.ownResult outcome) := by
      show c.history ++ _ = _
      rw [hhistory, List.append_assoc]
      rfl
    rw [hgained] at hgoes
    refine hgoes.after ?_
    rw [History.calls_cons, calls_ownResults, List.append_nil]
    exact hcalls
  · have hfirst : (before ++ call :: rest).findSome? (ToolCall.fatal? outcome) = some e := by
      rw [List.findSome?_append, hbefore.findSome?, List.findSome?_cons, hcall, Option.none_or]
    rw [run_oneByOne_fatal hbefore hcall, hfirst, hfatal, hfatal]
    refine ⟨rfl, rfl, _, _, ?_, ?_, @Parting.behind outcome [] text before rest call e hbefore hcall⟩
    · show c.history ++ _ = _
      rw [hhistory, List.append_assoc]
      rfl
    · show c.history ++ _ = _
      rw [hhistory, List.append_assoc, List.map_append, List.map_append, List.append_assoc]
      rfl

theorem rounds_agree (reply : RequestLog → CompletionResult) (outcome : String → Json → ToolOutcome)
    (c : Conversation) (round left : Nat) (asked : RequestLog) :
    Agree outcome c.history (((c.inMode false).rounds round left).run (.functional reply outcome) asked)
      (((c.inMode true).rounds round left).run (.functional reply outcome) asked) := by
  induction left generalizing c round asked with
  | zero =>
      rw [rounds, rounds]
      refine Agree.request (c := c.enter (.requesting round)) fun completion asked => ?_
      rcases completion with text | ⟨text, _ | ⟨call, calls⟩⟩
      · exact .answer _ text
      · exact .answer _ _
      · exact .atLimit _ text
  | succ left ih =>
      rw [rounds, rounds]
      refine Agree.request (c := c.enter (.requesting round)) fun completion asked => ?_
      rcases completion with text | ⟨text, _ | ⟨call, calls⟩⟩
      · exact .answer _ text
      · exact .answer _ _
      · refine Agree.execute (c := ((c.enter (.requesting round)).issue round text (call :: calls)).2) rfl ?_ ?_
        · exact fun c asked => ih c (round + 1) asked
        · exact fun c e => rfl

theorem opened_inMode (c : Conversation) (parallel : Bool) (text : String) :
    (c.inMode parallel).opened text = (c.opened text).inMode parallel := by
  cases hhistory : c.history with
  | nil => cases hprompt : c.config.systemPrompt <;> simp [opened, inMode, append, hhistory, hprompt]
  | cons first more => simp [opened, inMode, append, hhistory]

theorem calls_preamble (c : Conversation) : History.calls c.preamble = [] := by
  unfold preamble
  split <;> rfl

theorem turn_agrees (reply : RequestLog → CompletionResult) (outcome : String → Json → ToolOutcome)
    (c : Conversation) (text : String) (asked : RequestLog) :
    Agree outcome c.history (((c.inMode false).turn text).run (.functional reply outcome) asked)
      (((c.inMode true).turn text).run (.functional reply outcome) asked) := by
  have hrounds := rounds_agree reply outcome (c.opened text) 1 (c.config.maxRounds - 1) asked
  rw [← opened_inMode, ← opened_inMode, opened_history] at hrounds
  refine hrounds.after ?_
  rw [History.calls_append, calls_preamble]
  exact nofun

/-- A turn comes to the same result, and requests the same completions, whether its calls are made at the same
time or one after another: in a world whose completions depend on the requests so far and whose outcomes on
the calls. It adds the same to the history unless a call comes to a fatal error; then the two part in the last
batch, in the results of the calls behind the first such call. -/
theorem modes_agree (c : Conversation) (text : String) (reply : RequestLog → CompletionResult)
    (outcome : String → Json → ToolOutcome) (asked : RequestLog) :
    let serial := ((c.inMode false).turn text).run (.functional reply outcome) asked
    let parallel := ((c.inMode true).turn text).run (.functional reply outcome) asked
    serial.1.1 = parallel.1.1 ∧ serial.2 = parallel.2 ∧
      ∃ added added' : History,
        serial.1.2.history = c.history ++ added ∧ parallel.1.2.history = c.history ++ added' ∧
        (Calm outcome added.calls → added = added') ∧ Parting outcome added added' := by
  obtain ⟨hresult, hrequests, added, added', hserial, hparallel, hparting⟩ :=
    turn_agrees reply outcome c text asked
  exact ⟨hresult, hrequests, added, added', hserial, hparallel, hparting.eq_of_calm, hparting⟩

end Conversation

end Colloquy
