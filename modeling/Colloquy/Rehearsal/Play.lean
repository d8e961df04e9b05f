import Colloquy.Completion.Scripted
import Colloquy.Rehearsal.Peers
import Colloquy.Turn.Basic

/-! Turns played against a scripted completion service and rehearsed tools, on a clock of their own.
A turn may be cancelled at a time: a question that is not answered by then is not answered. -/

namespace Colloquy.Rehearsal

/-- What calls come to: their outcomes, unless they were given up first. -/
abbrev Outcomes (calls : List ToolCall) := Option (Vector ToolOutcome calls.length)

/-- Those who carry out calls. Given are the time and the time at which they are to give up;
they tell at what time they were through. -/
structure Crew (τ : Type) where
  invoke : (calls : List ToolCall) → Nat → Option Nat → τ → (Outcomes calls × Nat) × τ

/-! ### Tools in the program -/

/-- Starts all calls, in order. -/
def startAll (tools : LocalTools CannedM) : (calls : List ToolCall) → CannedM (Vector Timed calls.length)
  | [] => pure #v[]
  | c :: cs => do
    let t ← tools.invoke c.toolName c.arguments
    let ts ← startAll tools cs
    return (#v[t] ++ ts).cast (by simp [Nat.add_comm])

def localCrew (tools : LocalTools CannedM) : Crew CannedState where
  invoke calls now horizon s :=
    let (timed, s) := (startAll tools calls).run s
    let finish := now + timed.foldl (fun most t => max most t.delay) 0
    match horizon with
    | some h => if h < finish then ((none, h), s) else ((some (timed.map (·.outcome)), finish), s)
    | none => ((some (timed.map (·.outcome)), finish), s)

/-! ### Tools of a server -/

/-- The outcome in a reply, where there is one. -/
def outcomeIn (reply : Option Session.Reply) : ToolOutcome :=
  match reply with
  | some (.outcome o) => o
  | _ => .error .cancelled

def serverCrew : Crew ToolboxBench where
  invoke calls now horizon b :=
    let (tickets, b) := ToolboxBench.invokeAll { b with now } (calls.map (fun c => (c.toolName, c.arguments)))
    let b := b.await tickets horizon
    if b.answered tickets then
      ((some (Vector.ofFn (fun i => outcomeIn (b.answer? (tickets.getD i 0)))), b.now), b)
    else ((none, b.now), b.giveUp tickets)

/-! ### Turns -/

/-- What turns are played against. -/
structure Play (τ : Type) where
  client : ScriptedClient
  /-- What each request for a completion waits first. -/
  delays : List Nat
  side : τ
  now : Nat := 0
  cancelAt : Option Nat := none

namespace Play

variable {τ : Type}

/-- The turn is cancelled already. -/
def isCancelled (p : Play τ) : Bool := p.cancelAt.elim false (· ≤ p.now)

def complete (snapshot : Snapshot) (tools : List ToolSchema) (p : Play τ) : Option CompletionResult × Play τ :=
  let due := p.now + p.delays.headD 0
  let p := { p with delays := p.delays.tail }
  if p.cancelAt.elim false (· < due) then (none, { p with now := p.cancelAt.getD due })
  else
    let (result, client) := p.client.request snapshot tools
    (some result, { p with client, now := due })

def invoke (crew : Crew τ) (calls : List ToolCall) (p : Play τ) : Outcomes calls × Play τ :=
  let ((outcomes, now), side) := crew.invoke calls p.now p.cancelAt p.side
  (outcomes, { p with side, now })

def world (crew : Crew τ) : World (Play τ) := ⟨isCancelled, complete, invoke crew⟩

/-- Plays a turn that is cancelled after a time, if one is given. -/
def turn (crew : Crew τ) (c : Conversation) (text : String) (cancelAfter : Option Nat) (p : Play τ) :
    (TurnResult × Conversation) × Play τ :=
  (c.turn text).run (world crew) { p with cancelAt := cancelAfter.map (p.now + ·) }

end Play

end Colloquy.Rehearsal
