import Colloquy.Session.Client

/-! The log of a client: each event, and after it what the client did. Two things are read off a log, the
attempts at sending a frame with what became of them (`attempts`) and the requests in the order of their
start (`requests`). What is promised of a mark by what stands before and after it is shown piece by piece
of the log (`Throughout.append`). -/

namespace Colloquy.Session

open Rpc

inductive Mark where
  | event (e : Event)
  | effect (f : Effect AnswerResult)

abbrev Log := List Mark

abbrev marks (effects : List (Effect AnswerResult)) : Log := effects.map .effect

def Client.log (c : Client) : List Event → Log
  | [] => []
  | e :: es => .event e :: marks (c.step e).2 ++ (c.step e).1.log es

/-- The log of a new client. -/
abbrev sessionLog (limit : Nat) (events : List Event) : Log := Client.log { limit } events

/-! ### Attempts at sending -/

/-- What became of a frame whose sending was started. -/
inductive Fate where
  | pending
  | complete
  | failed
  | abandoned
deriving DecidableEq

structure Attempt where
  frame : Json
  fate : Fate

/-- Ends the attempt under way, if there is one. -/
def conclude (fate : Fate) : List Attempt → List Attempt
  | ⟨frame, .pending⟩ :: rest => ⟨frame, fate⟩ :: rest
  | all => all

def noteAttempt (all : List Attempt) : Mark → List Attempt
  | .effect (.send frame) => ⟨frame, .pending⟩ :: all
  | .effect .abandon => conclude .abandoned all
  | .event .written => conclude .complete all
  | .event (.writeFailed _) => conclude .failed all
  | _ => all

/-- The attempts at sending a frame in a log, the last one first. -/
def attempts (log : Log) : List Attempt := log.foldl noteAttempt []

@[simp]
theorem attempts_append (log more : Log) : attempts (log ++ more) = more.foldl noteAttempt (attempts log) :=
  List.foldl_append

/-- All frames went out in full. -/
def Whole (all : List Attempt) : Prop := ∀ a ∈ all, a.fate = .complete

/-- A frame went out in part, for an error or because its sending was given up. -/
def Broken (all : List Attempt) : Prop := ∃ a ∈ all, a.fate = .failed ∨ a.fate = .abandoned

theorem Whole.not_broken {all : List Attempt} (h : Whole all) : ¬Broken all := by
  rintro ⟨a, ha, hfate⟩
  rw [h a ha] at hfate
  exact hfate.elim nofun nofun

theorem conclude_of_whole {all : List Attempt} (h : Whole all) (fate : Fate) : conclude fate all = all := by
  unfold conclude
  split
  · exact nomatch h _ List.mem_cons_self
  · rfl

/-! ### Requests -/

def Mark.request? : Mark → Option Request
  | .effect (.arm _ request) => some request
  | _ => none

/-- The requests of a log, in the order of their start. -/
def requests (log : Log) : List Request := log.filterMap Mark.request?

@[simp]
theorem requests_append (log more : Log) : requests (log ++ more) = requests log ++ more.filterMap Mark.request? :=
  List.filterMap_append

/-! ### Marks in their places -/

/-- All marks of a piece of a log are as they should be, by what is before and after each. -/
def Throughout {τ : Type} (P : List τ → τ → List τ → Prop) (before : List τ) : List τ → Prop
  | [] => True
  | m :: after => P before m after ∧ Throughout P (before ++ [m]) after

variable {τ : Type} {P : List τ → τ → List τ → Prop} {before log more : List τ}

/-- A promise about what comes right after a mark is not touched by what comes later. -/
theorem Throughout.append (hP : ∀ {before m after}, P before m after → ∀ more, P before m (after ++ more))
    (h : Throughout P before log) (hmore : Throughout P (before ++ log) more) :
    Throughout P before (log ++ more) := by
  induction log generalizing before with
  | nil => rwa [List.append_nil] at hmore
  | cons m log ih =>
      rw [← List.singleton_append, ← List.append_assoc] at hmore
      exact ⟨hP h.1 more, ih h.2 hmore⟩

theorem Throughout.at {first after : List τ} {m : τ} (h : Throughout P before log) (hlog : log = first ++ m :: after) :
    P (before ++ first) m after := by
  subst hlog
  induction first generalizing before with
  | nil => rw [List.append_nil]; exact h.1
  | cons m' first ih =>
      rw [← List.singleton_append, ← List.append_assoc]
      exact ih h.2

end Colloquy.Session
