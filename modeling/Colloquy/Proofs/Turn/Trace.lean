import Colloquy.Turn.Dialogue

/-! What goes on while a dialogue is held. The trace of a run lists its questions, each with the one who
asked, the answer, and the world before and after; it is what the world could write down
(`run_recording`). `Leads` says the same of a dialogue without a world: which questions and answers can
lead to which result (`leads_run`). A dialogue that minds its cancellation asks nothing any more once it is
cancelled (`Minds.untouched`), and is given up if and only if that happens (`Minds.givenUp_iff`). -/

namespace Colloquy

/-- A question and its answer, if it was answered. -/
inductive Matter where
  | completion (snapshot : Snapshot) (tools : List ToolSchema) (answer : Option CompletionResult)
  | invocation (calls : List ToolCall) (outcomes : Option (List ToolOutcome))

/-- A question in the course of a dialogue: who asked, what came of it, and the world before and after. -/
structure Exchange (κ σ : Type) where
  asker : κ
  matter : Matter
  before : σ
  after : σ

variable {κ ρ σ : Type}

/-- The world, writing down what it is asked and what it answers. -/
def World.recording (w : World σ) : World (σ × List Matter) where
  cancelled s := w.cancelled s.1
  complete snapshot tools s :=
    let (answer, s') := w.complete snapshot tools s.1
    (answer, s', s.2 ++ [.completion snapshot tools answer])
  invoke calls s :=
    let (outcomes, s') := w.invoke calls s.1
    (outcomes, s', s.2 ++ [.invocation calls (outcomes.map Vector.toList)])

namespace Dialogue

/-- The questions that are asked when a dialogue is held with a world, in order. -/
def trace (w : World σ) : Dialogue κ ρ → σ → List (Exchange κ σ)
  | .done _, _ => []
  | .select stop go, s => if w.cancelled s then stop.trace w s else go.trace w s
  | .complete asker snapshot tools next, s =>
    let (answer, s') := w.complete snapshot tools s
    ⟨asker, .completion snapshot tools answer, s, s'⟩ :: (next answer).trace w s'
  | .invoke asker calls next, s =>
    let (outcomes, s') := w.invoke calls s
    ⟨asker, .invocation calls (outcomes.map Vector.toList), s, s'⟩ :: (next outcomes).trace w s'

/-- The trace of a run is what its world can write down. -/
theorem run_recording (w : World σ) (d : Dialogue κ ρ) (s : σ) (log : List Matter) :
    d.run w.recording (s, log) = ((d.run w s).1, (d.run w s).2, log ++ (d.trace w s).map (·.matter)) := by
  induction d generalizing s log with
  | done result =>
      rw [run, run, trace, List.map_nil, List.append_nil]
  | select stop go ihstop ihgo =>
      rw [run, run, trace]
      show (if w.cancelled s then _ else _) = _
      cases hs : w.cancelled s with
      | true => exact ihstop s log
      | false => exact ihgo s log
  | complete asker snapshot tools next ih =>
      rw [run, run, trace]
      show (next (w.complete snapshot tools s).1).run w.recording (_, _) = _
      rw [ih, List.append_assoc]
      rfl
  | invoke asker calls next ih =>
      rw [run, run, trace]
      show (next (w.invoke calls s).1).run w.recording (_, _) = _
      rw [ih, List.append_assoc]
      rfl

/-- The dialogue can take the course of these exchanges and end in the result. -/
inductive Leads : Dialogue κ ρ → List (Exchange κ σ) → ρ → Prop where
  | done (result : ρ) : Leads (.done result) [] result
  | stop {stop go : Dialogue κ ρ} {es : List (Exchange κ σ)} {result : ρ} :
      Leads stop es result → Leads (.select stop go) es result
  | go {stop go : Dialogue κ ρ} {es : List (Exchange κ σ)} {result : ρ} :
      Leads go es result → Leads (.select stop go) es result
  | complete {asker : κ} {snapshot : Snapshot} {tools : List ToolSchema}
      {next : Option CompletionResult → Dialogue κ ρ} (answer : Option CompletionResult) (before after : σ)
      {es : List (Exchange κ σ)} {result : ρ} :
      Leads (next answer) es result →
      Leads (.complete asker snapshot tools next)
        (⟨asker, .completion snapshot tools answer, before, after⟩ :: es) result
  | invoke {asker : κ} {calls : List ToolCall} {next : Option (Vector ToolOutcome calls.length) → Dialogue κ ρ}
      (outcomes : Option (Vector ToolOutcome calls.length)) (before after : σ)
      {es : List (Exchange κ σ)} {result : ρ} :
      Leads (next outcomes) es result →
      Leads (.invoke asker calls next)
        (⟨asker, .invocation calls (outcomes.map Vector.toList), before, after⟩ :: es) result

/-- A run takes a course that the dialogue can take. -/
theorem leads_run (w : World σ) (d : Dialogue κ ρ) (s : σ) : d.Leads (d.trace w s) (d.run w s).1 := by
  induction d generalizing s with
  | done result => exact .done result
  | select stop go ihstop ihgo =>
      rw [trace, run]
      split
      · exact .stop (ihstop s)
      · exact .go (ihgo s)
  | complete asker snapshot tools next ih =>
      exact .complete (w.complete snapshot tools s).1 s (w.complete snapshot tools s).2 (ih _ _)
  | invoke asker calls next ih =>
      exact .invoke (w.invoke calls s).1 s (w.invoke calls s).2 (ih _ _)

/-! ### Cancellation -/

/-- Nobody cancels the dialogue while it is held with the world: the world answers every question, and never
says that it has been cancelled where that is looked up. -/
def Undisturbed (w : World σ) : Dialogue κ ρ → σ → Prop
  | .done _, _ => True
  | .select _ go, s => w.cancelled s = false ∧ go.Undisturbed w s
  | .complete _ snapshot tools next, s =>
    let (answer, s') := w.complete snapshot tools s
    answer.isSome ∧ (next answer).Undisturbed w s'
  | .invoke _ calls next, s =>
    let (outcomes, s') := w.invoke calls s
    outcomes.isSome ∧ (next outcomes).Undisturbed w s'

instance decidableUndisturbed (w : World σ) : (d : Dialogue κ ρ) → (s : σ) → Decidable (d.Undisturbed w s)
  | .done _, _ => .isTrue trivial
  | .select _ go, s =>
    have := decidableUndisturbed w go s
    inferInstanceAs (Decidable (_ ∧ _))
  | .complete _ snapshot tools next, s =>
    have := decidableUndisturbed w (next (w.complete snapshot tools s).1) (w.complete snapshot tools s).2
    inferInstanceAs (Decidable (_ ∧ _))
  | .invoke _ calls next, s =>
    have := decidableUndisturbed w (next (w.invoke calls s).1) (w.invoke calls s).2
    inferInstanceAs (Decidable (_ ∧ _))

/-- The dialogue is over, and has been given up. -/
def GivesUp (givenUp : ρ → Prop) (d : Dialogue κ ρ) : Prop := ∃ result, d = .done result ∧ givenUp result

/-- The dialogue minds its cancellation. Right before every question it is looked up whether it has been cancelled;
if so, or if the question is not answered, it is given up at once, and it is not given up otherwise. -/
inductive Minds (givenUp : ρ → Prop) : Dialogue κ ρ → Prop where
  | done {result : ρ} (hresult : ¬givenUp result) : Minds givenUp (.done result)
  | complete {stop : Dialogue κ ρ} {asker : κ} {snapshot : Snapshot} {tools : List ToolSchema}
      {next : Option CompletionResult → Dialogue κ ρ} (hstop : stop.GivesUp givenUp)
      (hnone : (next none).GivesUp givenUp) (hnext : ∀ answer, Minds givenUp (next (some answer))) :
      Minds givenUp (.select stop (.complete asker snapshot tools next))
  | invoke {stop : Dialogue κ ρ} {asker : κ} {calls : List ToolCall}
      {next : Option (Vector ToolOutcome calls.length) → Dialogue κ ρ} (hstop : stop.GivesUp givenUp)
      (hnone : (next none).GivesUp givenUp) (hnext : ∀ outcomes, Minds givenUp (next (some outcomes))) :
      Minds givenUp (.select stop (.invoke asker calls next))

section GivesUp

variable {givenUp : ρ → Prop} {stop go : Dialogue κ ρ} {w : World σ} {s : σ}

theorem GivesUp.trace_eq (hstop : stop.GivesUp givenUp) (w : World σ) (s : σ) : stop.trace w s = [] := by
  obtain ⟨result, rfl, -⟩ := hstop
  rfl

theorem GivesUp.run (hstop : stop.GivesUp givenUp) (w : World σ) (s : σ) : givenUp (stop.run w s).1 := by
  obtain ⟨result, rfl, hresult⟩ := hstop
  exact hresult

theorem GivesUp.select_iff (hstop : stop.GivesUp givenUp)
    (hgo : givenUp (go.run w s).1 ↔ ¬go.Undisturbed w s) :
    givenUp ((select stop go).run w s).1 ↔ ¬(select stop go).Undisturbed w s := by
  rw [Dialogue.run, Undisturbed]
  cases hs : w.cancelled s with
  | true => exact iff_of_true (hstop.run w s) fun h => Bool.noConfusion h.1
  | false => simpa using hgo

theorem GivesUp.answer_iff {α : Type} {next : Option α → Dialogue κ ρ} (hnone : (next none).GivesUp givenUp)
    (hnext : ∀ answer s, givenUp ((next (some answer)).run w s).1 ↔ ¬(next (some answer)).Undisturbed w s)
    (answer : Option α) (s : σ) :
    givenUp ((next answer).run w s).1 ↔ ¬(answer.isSome ∧ (next answer).Undisturbed w s) := by
  cases answer with
  | none => exact iff_of_true (hnone.run w s) fun h => Bool.noConfusion h.1
  | some answer => simpa using hnext answer s

end GivesUp

/-- The dialogue is given up exactly if it is cancelled. -/
theorem Minds.givenUp_iff {givenUp : ρ → Prop} {d : Dialogue κ ρ} (hd : d.Minds givenUp) (w : World σ) (s : σ) :
    givenUp (d.run w s).1 ↔ ¬d.Undisturbed w s := by
  induction hd generalizing s with
  | done hresult => exact iff_of_false hresult (not_not_intro trivial)
  | complete hstop hnone hnext ih => exact hstop.select_iff (hnone.answer_iff ih _ _)
  | invoke hstop hnone hnext ih => exact hstop.select_iff (hnone.answer_iff ih _ _)

/-- When the question is asked, nothing has been cancelled so far: not at the start, not before or after
an earlier question, and not now. -/
structure Untouched (w : World σ) (start : σ) (earlier : List (Exchange κ σ)) (e : Exchange κ σ) : Prop where
  start : w.cancelled start = false
  earlier : ∀ e' ∈ earlier, w.cancelled e'.before = false ∧ w.cancelled e'.after = false
  now : w.cancelled e.before = false

theorem Untouched.of_first {w : World σ} {first e : Exchange κ σ} {rest es es' : List (Exchange κ σ)}
    (hfirst : w.cancelled first.before = false) (hrest : ∀ es, rest = es ++ e :: es' → Untouched w first.after es e)
    (htrace : first :: rest = es ++ e :: es') : Untouched w first.before es e := by
  cases es with
  | nil =>
      obtain ⟨rfl, _⟩ := List.cons.inj htrace
      exact ⟨hfirst, by simp, hfirst⟩
  | cons e₁ es =>
      obtain ⟨rfl, htail⟩ := List.cons.inj htrace
      have hlater := hrest es htail
      exact ⟨hfirst, List.forall_mem_cons.mpr ⟨⟨hfirst, hlater.start⟩, hlater.earlier⟩, hlater.now⟩

section Untouched

variable {givenUp : ρ → Prop} {stop go : Dialogue κ ρ} {w : World σ} {s : σ} {es es' : List (Exchange κ σ)}
  {e : Exchange κ σ}

/-- Where something is asked, the dialogue has gone on. -/
theorem GivesUp.select_trace (hstop : stop.GivesUp givenUp) (htrace : (select stop go).trace w s = es ++ e :: es') :
    w.cancelled s = false ∧ go.trace w s = es ++ e :: es' := by
  rw [trace] at htrace
  cases hs : w.cancelled s with
  | true => simp [hs, hstop.trace_eq] at htrace
  | false => exact ⟨rfl, by rwa [hs, if_neg Bool.false_ne_true] at htrace⟩

theorem GivesUp.answer_untouched {α : Type} {next : Option α → Dialogue κ ρ} (hnone : (next none).GivesUp givenUp)
    (hnext : ∀ answer {s : σ} {es : List (Exchange κ σ)}, (next (some answer)).trace w s = es ++ e :: es' →
      Untouched w s es e)
    {answer : Option α} (htrace : (next answer).trace w s = es ++ e :: es') : Untouched w s es e := by
  cases answer with
  | none => simp [hnone.trace_eq] at htrace
  | some answer => exact hnext answer htrace

theorem Minds.untouched {d : Dialogue κ ρ} (hd : d.Minds givenUp) (htrace : d.trace w s = es ++ e :: es') :
    Untouched w s es e := by
  induction hd generalizing s es with
  | done hresult => simp [trace] at htrace
  | complete hstop hnone hnext ih =>
      obtain ⟨hs, hgo⟩ := hstop.select_trace htrace
      exact .of_first hs (fun es hrest => hnone.answer_untouched ih hrest) hgo
  | invoke hstop hnone hnext ih =>
      obtain ⟨hs, hgo⟩ := hstop.select_trace htrace
      exact .of_first hs (fun es hrest => hnone.answer_untouched ih hrest) hgo

end Untouched

end Dialogue

end Colloquy
