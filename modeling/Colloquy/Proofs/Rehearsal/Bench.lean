import Colloquy.Rehearsal.Bench

/-! Frames on the bench. A peer without a script takes each frame at once and answers it by itself, so a frame that
is sent is written (`settle_unanswered`) and its answer arrives (`settle_answered`) before time passes. Then the
bench is at rest again, where nothing goes on by itself. -/

namespace Colloquy.Rehearsal.Bench

open Session

variable {σ α : Type} {b : Bench σ α}

/-- Nothing is under way, and nothing is to come that the peer does not answer to a frame. -/
structure Resting (b : Bench σ α) : Prop where
  script : b.peer.script = []
  stream : b.peer.stream = []
  write : b.write = none
  waiting : b.waiting = false
  closing : b.closing = none

/-- The bench with a frame on its way to the peer. -/
def writing (b : Bench σ α) (node : σ) (frame : Json) : Bench σ α :=
  { b with node, write := some ⟨frame, some b.now, {}⟩ }

/-- The bench with the note that a frame went out. -/
def noted (b : Bench σ α) (frame : Json) : Bench σ α := { b with notes := b.notes ++ [.sent frame] }

theorem settle_resting (h : b.Resting) (fuel : Nat) : b.settle fuel = b := by
  cases fuel with
  | zero => rfl
  | succ fuel => simp [settle, immediate?, h.write, h.waiting, h.closing]

theorem Resting.noted (h : b.Resting) (frame : Json) : (b.noted frame).Resting :=
  ⟨h.script, h.stream, h.write, h.waiting, h.closing⟩

/-- A frame that is not answered goes out, and the machine goes on. -/
theorem settle_unanswered (h : b.Resting) {step : σ → Event → σ × List (Effect α)} (hstep : b.step = step)
    {node : σ} {frame : Json} {next : σ × List (Effect α)} (hwritten : step node .written = next)
    (hanswers : b.peer.answers frame = []) (fuel : Nat) :
    (b.writing node frame).settle (fuel + 1) = ((b.noted frame).took next).settle fuel := by
  obtain ⟨node', step', ⟨script, hangs, closeError, answers, stream⟩, limit, now, write, waiting, closing, deadlines,
    given, issued, notes⟩ := b
  obtain ⟨rfl, rfl, rfl, rfl, rfl⟩ := h
  subst hstep hwritten
  simp only at hanswers
  simp [settle, immediate?, writing, endWrite, deliver, Bench.noted, took, hanswers]

/-- A frame that is answered goes out and the answer comes in. -/
theorem settle_answered (h : b.Resting) {step : σ → Event → σ × List (Effect α)} (hstep : b.step = step)
    {node node' : σ} {frame answer : Json} {next : σ × List (Effect α)}
    (hwritten : step node .written = (node', [.receive])) (hanswers : b.peer.answers frame = [answer])
    (hreceived : step node' (.received answer) = next) (fuel : Nat) :
    (b.writing node frame).settle (fuel + 2) = ((b.noted frame).took next).settle fuel := by
  obtain ⟨node₀, step', ⟨script, hangs, closeError, answers, stream⟩, limit, now, write, waiting, closing, deadlines,
    given, issued, notes⟩ := b
  obtain ⟨rfl, rfl, rfl, rfl, rfl⟩ := h
  subst hstep hreceived
  simp only at hanswers hwritten
  simp [settle, immediate?, writing, endWrite, arrive, deliver, Bench.noted, took, perform, hwritten, hanswers]

/-! ### What a step of the machine leads to -/

/-- The time of a caller starts. -/
def armed (b : Bench σ α) (t : Nat) : Bench σ α :=
  { b with deadlines := b.deadlines.filter (fun d => d.1 != t) ++ [(t, b.now + b.limit)] }

/-- A caller is answered. -/
def told (b : Bench σ α) (t : Nat) (a : α) : Bench σ α :=
  { b with answers := b.answers ++ [(t, a)], deadlines := b.deadlines.filter (fun d => d.1 != t) }

/-- One ticket more is handed out. -/
def ticketed (b : Bench σ α) : Bench σ α := { b with issued := b.issued + 1 }

theorem Resting.ticketed (h : b.Resting) : b.ticketed.Resting := ⟨h.script, h.stream, h.write, h.waiting, h.closing⟩

theorem submit_eq (b : Bench σ α) (ask : Nat → σ → σ × List (Effect α)) :
    b.submit ask = (b.issued, b.ticketed.push (ask b.issued b.node)) := rfl

/-- The machine is in another state. -/
def moved (b : Bench σ α) (node : σ) : Bench σ α := { b with node }

theorem Resting.moved (h : b.Resting) (node : σ) : (b.moved node).Resting :=
  ⟨h.script, h.stream, h.write, h.waiting, h.closing⟩

theorem Resting.armed (h : b.Resting) (t : Nat) : (b.armed t).Resting :=
  ⟨h.script, h.stream, h.write, h.waiting, h.closing⟩

theorem Resting.told (h : b.Resting) (t : Nat) (a : α) : (b.told t a).Resting :=
  ⟨h.script, h.stream, h.write, h.waiting, h.closing⟩

theorem took_request (h : b.Resting) (node : σ) (t : Nat) (request : Rpc.Request) (frame : Json) :
    b.took (node, [.arm t request, .hold t, .send frame]) = (b.armed t).writing node frame := by
  obtain ⟨node', step', ⟨script, hangs, closeError, answers, stream⟩, limit, now, write, waiting, closing, deadlines,
    given, issued, notes⟩ := b
  obtain ⟨rfl, rfl, rfl, rfl, rfl⟩ := h
  rfl

theorem took_send (h : b.Resting) (node : σ) (t : Nat) (id : Rpc.RequestId) (value frame : Json) :
    b.took (node, [.accept t id value, .hold t, .send frame]) = b.writing node frame := by
  obtain ⟨node', step', ⟨script, hangs, closeError, answers, stream⟩, limit, now, write, waiting, closing, deadlines,
    given, issued, notes⟩ := b
  obtain ⟨rfl, rfl, rfl, rfl, rfl⟩ := h
  rfl

theorem took_answer (node : σ) (t : Nat) (id : Rpc.RequestId) (value : Json) (a : α) :
    b.took (node, [.accept t id value, .answer t a]) = (b.moved node).told t a := rfl

/-! ### Waiting -/

/-- There are as many steps to spare as a few exchanges take. -/
theorem enough_eq (b : Bench σ α) : ∃ fuel, b.enough = fuel + 10 := ⟨b.enough - 10, by unfold enough; omega⟩

/-- There is nothing to wait for when the answers are there. -/
theorem await_resting (h : b.Resting) (hdeadlines : b.deadlines = []) {tickets : List Nat}
    (hanswered : b.answered tickets = true) (horizon : Option Nat) : b.await tickets horizon = b := by
  have hexpire (fuel : Nat) : b.expire fuel = b := by
    cases fuel with
    | zero => rfl
    | succ fuel => simp [expire, hdeadlines]
  obtain ⟨fuel, hfuel⟩ := b.enough_eq
  rw [await, hfuel]
  show run tickets horizon (fuel + 9 + 1) b = b
  unfold run
  simp only [settle_resting h, hexpire, hanswered, if_true]

end Colloquy.Rehearsal.Bench
