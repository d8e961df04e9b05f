import Colloquy.Rehearsal.Canned
import Colloquy.Session.Client

/-! A bench on which a machine of session events is run against a scripted peer, on a clock that only
moves when everything waits. Writing, arriving and expiring take place at definite times; at one
time, what can go on without waiting goes on first, then limits expire in the order of their calls. -/

namespace Colloquy.Rehearsal

open Session

/-- What the peer puts into its stream. -/
inductive Arrival where
  | frame (value : Json)
  | error (reason : String)
  | endOfStream

/-- How the peer reacts to one attempt to send to it. -/
structure Reaction where
  sendDelay : Nat := 0
  /-- The write never ends. -/
  stall : Bool := false
  sendError : Option String := none
  /-- What arrives, each with its delay after the write. -/
  arrivals : List (Nat × Arrival) := []
  /-- What answers by itself behind the peer does not see the frame. -/
  mute : Bool := false

/-- The other end of a session. -/
structure Peer where
  script : List Reaction := []
  /-- An empty stream keeps its reader waiting; else it has ended. -/
  hangsWhenEmpty : Bool := false
  closeError : Option String := none
  /-- What is answered to a frame beside the script. -/
  answers : Json → List Json := fun _ => []
  /-- What is under way to the client, with the times at which it is there. -/
  stream : List (Nat × Arrival) := []

/-- A write that has started: when it ends, if ever, and how the peer reacts. -/
structure Write where
  frame : Json
  due : Option Nat
  reaction : Reaction

/-- A machine on the bench. `σ` is its state and `α` what it answers. -/
structure Bench (σ α : Type) where
  node : σ
  step : σ → Event → σ × List (Effect α)
  peer : Peer
  /-- What a request may take. -/
  limit : Nat
  now : Nat := 0
  write : Option Write := none
  waiting : Bool := false
  /-- The close that was started and what it ends with. -/
  closing : Option Event := none
  /-- When the requests of callers expire, in the order of their calls. -/
  deadlines : List (Nat × Nat) := []
  answers : List (Nat × α) := []
  /-- Tickets handed out so far; they are the numbers below. -/
  issued : Nat := 0
  notes : List Note := []

namespace Bench

variable {σ α : Type}

def startWrite (b : Bench σ α) (frame : Json) : Bench σ α :=
  let reaction := b.peer.script.headD {}
  let due := if reaction.stall then none else some (b.now + reaction.sendDelay)
  { b with peer := { b.peer with script := b.peer.script.tail }, write := some ⟨frame, due, reaction⟩ }

/-- Lets one effect of the machine take place. -/
def perform (b : Bench σ α) : Effect α → Bench σ α
  | .send frame => b.startWrite frame
  | .receive => { b with waiting := true }
  | .close =>
    let result := match b.peer.closeError with
      | some reason => Event.closeFailed reason
      | none => Event.closed
    { b with notes := b.notes ++ [.closed], closing := some result }
  | .abandon => { b with write := none, waiting := false, closing := none }
  | .hold _ | .accept _ _ _ => b
  | .arm ticket _ =>
    let rest := b.deadlines.filter (fun d => d.1 != ticket)
    { b with deadlines := rest ++ [(ticket, b.now + b.limit)] }
  | .answer ticket a =>
    { b with answers := b.answers ++ [(ticket, a)], deadlines := b.deadlines.filter (fun d => d.1 != ticket) }

/-- Works through a step of the machine. -/
def took (b : Bench σ α) (s : σ × List (Effect α)) : Bench σ α := s.2.foldl perform { b with node := s.1 }

def deliver (b : Bench σ α) (e : Event) : Bench σ α := b.took (b.step b.node e)

/-- The write ends. -/
def endWrite (b : Bench σ α) (w : Write) : Bench σ α :=
  let b := { b with write := none }
  match w.reaction.sendError with
  | some reason => b.deliver (.writeFailed reason)
  | none =>
    let answers := if w.reaction.mute then [] else b.peer.answers w.frame
    let arrivals := w.reaction.arrivals ++ answers.map (fun a => (0, Arrival.frame a))
    let stream := b.peer.stream ++ arrivals.map (fun a => (b.now + a.1, a.2))
    let b := { b with notes := b.notes ++ [Note.sent w.frame], peer := { b.peer with stream } }
    b.deliver .written

/-- The machine gets what has arrived. -/
def arrive (b : Bench σ α) (a : Arrival) : Bench σ α :=
  { b with waiting := false }.deliver (match a with
    | .frame value => .received value
    | .error reason => .receiveFailed reason
    | .endOfStream => .ended)

/-- The next thing that happens without waiting, if there is one. -/
def immediate? (b : Bench σ α) : Option (Bench σ α) :=
  match b.closing, b.write, b.waiting, b.peer.stream with
  | some e, _, _, _ => some ({ b with closing := none }.deliver e)
  | none, some w, _, _ => match w.due with
    | some due => if due ≤ b.now then some (b.endWrite w) else none
    | none => none
  | none, none, true, (due, a) :: rest =>
    if due ≤ b.now then some ({ b with peer := { b.peer with stream := rest } }.arrive a) else none
  | none, none, true, [] => if b.peer.hangsWhenEmpty then none else some (b.arrive .endOfStream)
  | none, none, false, _ => none

/-- Goes on as far as possible without waiting, for a number of steps at most. -/
def settle : Nat → Bench σ α → Bench σ α
  | 0, b => b
  | fuel + 1, b => match b.immediate? with
    | some b => settle fuel b
    | none => b

/-- Lets those limits expire that are reached, in the order of their calls. -/
def expire : Nat → Bench σ α → Bench σ α
  | 0, b => b
  | fuel + 1, b => match b.deadlines.find? (fun d => d.2 ≤ b.now) with
    | some (ticket, _) =>
      let b := { b with deadlines := b.deadlines.filter (fun d => d.1 != ticket) }
      expire fuel ((b.deliver (.expired ticket)).settle fuel)
    | none => b

/-- The times at which something is going to happen. -/
def wakeTimes (b : Bench σ α) : List Nat :=
  b.deadlines.map (·.2) ++ (b.write.bind (·.due)).toList ++
    (if b.waiting then (b.peer.stream.head?.map (·.1)).toList else [])

def answered (b : Bench σ α) (tickets : List Nat) : Bool := tickets.all (fun t => b.answers.any (fun a => a.1 == t))

/-- Runs until the tickets are answered, the horizon is reached, or nothing is going to happen. -/
def run (tickets : List Nat) (horizon : Option Nat) : Nat → Bench σ α → Bench σ α
  | 0, b => b
  | fuel + 1, b =>
    let b := (b.settle fuel).expire fuel
    if b.answered tickets then b
    else match (b.wakeTimes.filter (fun t => b.now < t)).min?, horizon with
      | some t, some h => if h ≤ t then { b with now := max b.now h } else run tickets horizon fuel { b with now := t }
      | some t, none => run tickets horizon fuel { b with now := t }
      | none, some h => { b with now := max b.now h }
      | none, none => b

/-- More steps than a run can take. -/
def enough (b : Bench σ α) : Nat :=
  200 + 8 * ((b.peer.script.flatMap (·.arrivals)).length + b.peer.script.length + b.peer.stream.length + b.deadlines.length)

/-- A step of the machine, and what follows without waiting. -/
def push (b : Bench σ α) (s : σ × List (Effect α)) : Bench σ α := (b.took s).settle b.enough

/-- Asks something of the machine under a new ticket. -/
def submit (b : Bench σ α) (ask : Nat → σ → σ × List (Effect α)) : Nat × Bench σ α :=
  (b.issued, { b with issued := b.issued + 1 }.push (ask b.issued b.node))

/-- Waits for answers to tickets, until a horizon at most. -/
def await (b : Bench σ α) (tickets : List Nat) (horizon : Option Nat) : Bench σ α := b.run tickets horizon b.enough

/-- Time passes while nobody waits for anything. -/
def pass (b : Bench σ α) (ms : Nat) : Bench σ α := { b with now := b.now + ms }

/-- The answer to a ticket. -/
def answer? (b : Bench σ α) (ticket : Nat) : Option α := b.answers.lookup ticket

/-- Gives tickets up. -/
def giveUp (b : Bench σ α) (tickets : List Nat) : Bench σ α :=
  let b := { b with deadlines := b.deadlines.filter (fun d => !tickets.contains d.1) }
  b.push (b.step b.node (.withdrawn tickets))

end Bench

end Colloquy.Rehearsal
