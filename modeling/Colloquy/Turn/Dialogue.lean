import Colloquy.Error

/-! What a turn asks of the outside world. A `Dialogue` is the tree of its questions: a completion of
a snapshot, or the outcome of some tool calls made at the same time. Each question comes with the one
who asks, as he stands at that point. A question is answered, or the turn is cancelled before the
answer is there. Whether it has been cancelled already is looked up only where the dialogue says so. -/

namespace Colloquy

inductive Dialogue (κ ρ : Type) where
  | done (result : ρ)
  /-- Takes the first way if the turn has been cancelled, and the second if not. -/
  | select (stop go : Dialogue κ ρ)
  | complete (asker : κ) (snapshot : Snapshot) (tools : List ToolSchema)
      (next : Option CompletionResult → Dialogue κ ρ)
  | invoke (asker : κ) (calls : List ToolCall)
      (next : Option (Vector ToolOutcome calls.length) → Dialogue κ ρ)

/-- A world that answers questions; `none` says that the turn was cancelled first. -/
structure World (σ : Type) where
  /-- The turn has been cancelled. -/
  cancelled : σ → Bool
  complete : Snapshot → List ToolSchema → σ → Option CompletionResult × σ
  invoke : (calls : List ToolCall) → σ → Option (Vector ToolOutcome calls.length) × σ

/-- Holds a dialogue with a world. -/
def Dialogue.run {κ ρ σ : Type} (w : World σ) : Dialogue κ ρ → σ → ρ × σ
  | .done result, s => (result, s)
  | .select stop go, s => if w.cancelled s then stop.run w s else go.run w s
  | .complete _ snapshot tools next, s =>
    let (answer, s) := w.complete snapshot tools s
    (next answer).run w s
  | .invoke _ calls next, s =>
    let (answer, s) := w.invoke calls s
    (next answer).run w s

end Colloquy
