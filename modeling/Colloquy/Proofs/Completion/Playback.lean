import Colloquy.Completion.Scripted

/-! A client that plays back a script, in whatever order it is asked and given more to play. What was queued is always
what has been handed out, followed by what is still in the script (`handedOut_append_script`); from this it follows
which answer each request gets (`played_back`). -/

namespace Colloquy

namespace ScriptedClient

/-- What is done with a client. -/
inductive Use where
  | push (outcome : CompletionResult)
  | request (snapshot : Snapshot) (tools : List ToolSchema)

def Use.pushed? : Use → Option CompletionResult
  | .push outcome => some outcome
  | .request _ _ => none

def Use.asked? : Use → Option RecordedRequest
  | .push _ => none
  | .request snapshot tools => some ⟨snapshot.messages, tools.map (·.name)⟩

def use (c : ScriptedClient) : Use → ScriptedClient
  | .push outcome => c.push outcome
  | .request snapshot tools => (c.request snapshot tools).2

/-- The client after a number of uses. -/
def after (c : ScriptedClient) (uses : List Use) : ScriptedClient := uses.foldl use c

/-- What a request gets that finds the script used up. -/
def unscripted (c : ScriptedClient) (snapshot : Snapshot) : CompletionResult :=
  match c.whenExhausted with
  | .fail => .error (.malformed "scripted client has no more outcomes")
  | .echo => .ok (echo snapshot.messages)

/-- The answer of a use, if it is a request and something remained in the script. -/
def gives? (c : ScriptedClient) : Use → Option CompletionResult
  | .push _ => none
  | .request snapshot tools => if c.remaining = 0 then none else some (c.request snapshot tools).1

/-- The answers that came from the script, in the order in which they were given. -/
def handedOut (c : ScriptedClient) : List Use → List CompletionResult
  | [] => []
  | u :: uses => (c.gives? u).toList ++ (c.use u).handedOut uses

/-- All that has been in the script: what was there at first, and then what was pushed. -/
def queued (c : ScriptedClient) (uses : List Use) : List CompletionResult := c.script ++ uses.filterMap Use.pushed?

variable (c : ScriptedClient)

/-! ### One use -/

theorem request_eq (snapshot : Snapshot) (tools : List ToolSchema) :
    c.request snapshot tools = (c.script.head?.getD (c.unscripted snapshot),
      { c with script := c.script.tail, requests := c.requests ++ [⟨snapshot.messages, tools.map (·.name)⟩] }) := by
  obtain ⟨_ | ⟨outcome, rest⟩, requests, _ | _⟩ := c <;> rfl

theorem gives?_request (snapshot : Snapshot) (tools : List ToolSchema) :
    c.gives? (.request snapshot tools) = c.script.head? := by
  rw [gives?, request_eq, remaining]
  cases c.script <;> rfl

theorem whenExhausted_use (u : Use) : (c.use u).whenExhausted = c.whenExhausted := by
  cases u with
  | push outcome => rfl
  | request snapshot tools => rw [use, request_eq]

theorem requests_use (u : Use) : (c.use u).requests = c.requests ++ u.asked?.toList := by
  cases u with
  | push outcome => exact (List.append_nil _).symm
  | request snapshot tools =>
      rw [use, request_eq]
      rfl

/-- A use moves an outcome from the front of the script into the hands of who asks, or one in at the back. -/
theorem gives?_append_script (u : Use) :
    (c.gives? u).toList ++ (c.use u).script = c.script ++ u.pushed?.toList := by
  cases u with
  | push outcome => rfl
  | request snapshot tools =>
      rw [gives?_request, use, request_eq]
      cases c.script <;> simp [Use.pushed?]

/-! ### Many uses -/

variable (uses : List Use)

theorem after_append (more : List Use) : c.after (uses ++ more) = (c.after uses).after more := List.foldl_append

theorem handedOut_append (more : List Use) :
    c.handedOut (uses ++ more) = c.handedOut uses ++ (c.after uses).handedOut more := by
  induction uses generalizing c with
  | nil => rfl
  | cons u uses ih =>
      rw [List.cons_append, handedOut, handedOut, ih, List.append_assoc]
      rfl

theorem whenExhausted_after : (c.after uses).whenExhausted = c.whenExhausted := by
  induction uses generalizing c with
  | nil => rfl
  | cons u uses ih => exact (ih (c.use u)).trans (c.whenExhausted_use u)

theorem requests_after : (c.after uses).requests = c.requests ++ uses.filterMap Use.asked? := by
  induction uses generalizing c with
  | nil => exact (List.append_nil _).symm
  | cons u uses ih =>
      calc ((c.use u).after uses).requests = (c.use u).requests ++ uses.filterMap Use.asked? := ih (c.use u)
        _ = c.requests ++ (u.asked?.toList ++ uses.filterMap Use.asked?) := by rw [requests_use, List.append_assoc]
        _ = c.requests ++ (u :: uses).filterMap Use.asked? := by
            cases hu : u.asked? <;> simp [hu]

/-- Nothing is lost, doubled or put out of order: what was queued has been handed out or is in the script. -/
theorem handedOut_append_script : c.handedOut uses ++ (c.after uses).script = c.queued uses := by
  induction uses generalizing c with
  | nil => exact (List.append_nil _).symm
  | cons u uses ih =>
      calc c.handedOut (u :: uses) ++ (c.after (u :: uses)).script
          = (c.gives? u).toList ++ ((c.use u).handedOut uses ++ ((c.use u).after uses).script) := List.append_assoc ..
        _ = (c.gives? u).toList ++ ((c.use u).script ++ uses.filterMap Use.pushed?) := by rw [ih (c.use u), queued]
        _ = c.script ++ (u.pushed?.toList ++ uses.filterMap Use.pushed?) := by
            rw [← List.append_assoc, gives?_append_script, List.append_assoc]
        _ = c.queued (u :: uses) := by
            cases hu : u.pushed? <;> simp [queued, hu]

/-- What is next in the script is the first that has been queued and not handed out. -/
theorem head?_after : (c.after uses).script.head? = (c.queued uses)[(c.handedOut uses).length]? := by
  rw [← handedOut_append_script, List.getElem?_append_right (Nat.le_refl _), Nat.sub_self, List.head?_eq_getElem?]

theorem script_after_eq_nil_iff : (c.after uses).script = [] ↔ c.handedOut uses = c.queued uses := by
  rw [← handedOut_append_script, List.self_eq_append_right]

theorem handedOut_requests (asks : List (Snapshot × List ToolSchema)) :
    c.handedOut (asks.map fun (snapshot, tools) => .request snapshot tools) = c.script.take asks.length := by
  induction asks generalizing c with
  | nil => exact List.take_zero.symm
  | cons ask asks ih =>
      have hscript : (c.use (.request ask.1 ask.2)).script = c.script.tail := by rw [use, request_eq]
      rw [List.map_cons, handedOut, ih, gives?_request, hscript]
      cases c.script <;> simp

/-! ### The course of a script -/

/-- The answer of a request at the end of some uses. -/
def answer (snapshot : Snapshot) (tools : List ToolSchema) : CompletionResult :=
  ((c.after uses).request snapshot tools).1

/-- How a script is played back: what has come of the uses so far, and what a further one does. -/
structure PlaysBack : Prop where
  in_order : c.handedOut uses <+: c.queued uses
  remaining : (c.after uses).remaining + (c.handedOut uses).length = (c.queued uses).length
  requests : (c.after uses).requests = c.requests ++ uses.filterMap Use.asked?
  /-- A request takes what is in front. -/
  next : ∀ outcome, (c.queued uses)[(c.handedOut uses).length]? = some outcome → ∀ snapshot tools,
    c.answer uses snapshot tools = outcome ∧
      c.handedOut (uses ++ [.request snapshot tools]) = c.handedOut uses ++ [outcome]
  /-- If nothing is in front, it gets the answer for that case. -/
  exhausted : c.handedOut uses = c.queued uses → ∀ snapshot tools,
    c.answer uses snapshot tools = c.unscripted snapshot ∧
      c.handedOut (uses ++ [.request snapshot tools]) = c.handedOut uses
  /-- Nothing is in front just if all has been handed out. -/
  nothing_iff : (c.queued uses)[(c.handedOut uses).length]? = none ↔ c.handedOut uses = c.queued uses
  /-- What is pushed then is still handed out. -/
  renewed : c.handedOut uses = c.queued uses → ∀ outcome snapshot tools,
    c.answer (uses ++ [.push outcome]) snapshot tools = outcome
  /-- So many requests in a row get so many outcomes, as far as there are any. -/
  in_the_end : ∀ asks : List (Snapshot × List ToolSchema),
    c.handedOut (uses ++ asks.map fun (snapshot, tools) => .request snapshot tools) =
      (c.queued uses).take ((c.handedOut uses).length + asks.length)

theorem answer_eq (snapshot : Snapshot) (tools : List ToolSchema) :
    c.answer uses snapshot tools = (c.queued uses)[(c.handedOut uses).length]?.getD (c.unscripted snapshot) := by
  rw [answer, request_eq, head?_after, unscripted, unscripted, whenExhausted_after]

theorem handedOut_concat_request (snapshot : Snapshot) (tools : List ToolSchema) :
    c.handedOut (uses ++ [.request snapshot tools]) =
      c.handedOut uses ++ (c.queued uses)[(c.handedOut uses).length]?.toList := by
  rw [handedOut_append, handedOut, handedOut, gives?_request, head?_after, List.append_nil]

theorem nothing_in_front_iff :
    (c.queued uses)[(c.handedOut uses).length]? = none ↔ c.handedOut uses = c.queued uses := by
  rw [← head?_after, List.head?_eq_none_iff, script_after_eq_nil_iff]

/-- A script is played back in order, each of its outcomes once and as soon as it is asked for, and so is what is pushed,
at whatever time. -/
theorem played_back : c.PlaysBack uses where
  in_order := ⟨_, c.handedOut_append_script uses⟩
  remaining := by
    rw [← handedOut_append_script, List.length_append, ScriptedClient.remaining, Nat.add_comm]
  requests := c.requests_after uses
  next outcome hnext snapshot tools := by
    rw [answer_eq, handedOut_concat_request, hnext]
    exact ⟨rfl, rfl⟩
  exhausted hall snapshot tools := by
    rw [answer_eq, handedOut_concat_request, (c.nothing_in_front_iff uses).mpr hall]
    exact ⟨rfl, List.append_nil _⟩
  nothing_iff := c.nothing_in_front_iff uses
  renewed hall outcome snapshot tools := by
    have hempty : (c.after uses).script = [] := (c.script_after_eq_nil_iff uses).mpr hall
    have hscript : (c.after (uses ++ [.push outcome])).script = [outcome] := by
      rw [after_append]
      exact congrArg (· ++ [outcome]) hempty
    rw [answer, request_eq, hscript]
    rfl
  in_the_end asks := by
    rw [handedOut_append, handedOut_requests, ← handedOut_append_script, List.take_length_add_append]

/-- An echoing client answers with what is pushed after an echo, and then with the echo again. -/
example (snapshot : Snapshot) (outcome : CompletionResult) :
    let c := (({ whenExhausted := .echo } : ScriptedClient).request snapshot []).2.push outcome
    (c.request snapshot []).1 = outcome ∧
      ((c.request snapshot []).2.request snapshot []).1 = .ok (echo snapshot.messages) := by
  exact ⟨rfl, rfl⟩

end ScriptedClient

end Colloquy
