import Mathlib.Data.List.TakeWhile
import Colloquy.Completion.Provider
import Colloquy.Proofs.Conversation.Renewal

/-! The completion in a stream of events. Of a stream only what comes before its first end counts, and of that only
the failures, the text as a whole and the calls in order (`gather_eq`). What these amount to is said by `Amounts`,
without the order of events in which they came. -/

namespace Colloquy

namespace StreamEvent

def isDone : StreamEvent → Bool
  | .done => true
  | _ => false

def chunk? : StreamEvent → Option String
  | .text chunk => some chunk
  | _ => none

def call? : StreamEvent → Option ToolCall
  | .call c => some c
  | _ => none

def failure? : StreamEvent → Option String
  | .failed reason => some reason
  | _ => none

/-- The events before the first end. -/
def counted (events : List StreamEvent) : List StreamEvent := events.takeWhile (!·.isDone)

/-- The text in all chunks. -/
def textOf (events : List StreamEvent) : String := String.join (events.filterMap chunk?)

def callsOf (events : List StreamEvent) : List ToolCall := events.filterMap call?

def failuresOf (events : List StreamEvent) : List String := events.filterMap failure?

theorem counted_counted (events : List StreamEvent) : counted (counted events) = counted events :=
  List.takeWhile_idem

end StreamEvent

open StreamEvent

/-! ### Gathering -/

/-- Behind what is gathered already, a stream brings its text and its calls, unless it fails. -/
theorem gather_eq (g : Gathered) (events : List StreamEvent) : gather g events =
    match failuresOf (counted events) with
    | [] => .ok ⟨g.text ++ textOf (counted events), g.calls ++ callsOf (counted events)⟩
    | reason :: _ => .error (.unreachable s!"stream error: {reason}") := by
  induction events generalizing g with
  | nil => simp [gather, counted, textOf, callsOf, failuresOf]
  | cons event events ih =>
      cases event with
      | text chunk =>
          have htext : textOf (counted (.text chunk :: events)) = chunk ++ textOf (counted events) := String.join_cons
          rw [gather, ih, htext, String.append_assoc]
          rfl
      | call c =>
          have hcalls : callsOf (counted (.call c :: events)) = c :: callsOf (counted events) := rfl
          rw [gather, ih, hcalls, List.append_assoc]
          rfl
      | other => exact ih g
      | done => simp [gather, counted, isDone, textOf, callsOf, failuresOf]
      | failed reason => rfl

/-! ### What was gathered -/

/-- What a text and calls amount to. -/
structure Amounts (ids : IdSupply) (text : String) (calls : List ToolCall) (made : CompletionResult × IdSupply) :
    Prop where
  nothing : calls = [] → Text.isAllBlank text = true →
    made.1 = .error (.malformed "response had neither text nor tool calls")
  answer : calls = [] → Text.isAllBlank text = false → made.1 = .ok (.answer text)
  nameless : (∃ c ∈ calls, c.toolName = "") → made.1 = .error (.malformed "tool call without a function name")
  batch : calls ≠ [] → (∀ c ∈ calls, c.toolName ≠ "") → ∃ renewed,
    made.1 = .ok (.batch (if Text.isAllBlank text then none else some text) renewed) ∧
      renewed.map ToolCall.request = calls.map ToolCall.request ∧
      (ids.FreshBelow made.2.next ("" :: calls.map (·.id)) → (renewed.map (·.id)).Nodup ∧ (∀ c ∈ renewed, c.id ≠ "") ∧
        ∀ (i : Nat) (c c' : ToolCall), calls[i]? = some c → renewed[i]? = some c' →
          (c'.id = c.id ↔ c.id ≠ "" ∧ c.id ∉ (calls.take i).map (·.id)))

variable {ids : IdSupply}

theorem renewed_calls {calls : List ToolCall} (hfresh : ids.FreshBelow (renewIds String.isEmpty ids [] calls).2.next
    ("" :: calls.map (·.id))) :
    ((renewIds String.isEmpty ids [] calls).1.map (·.id)).Nodup ∧
      (∀ c ∈ (renewIds String.isEmpty ids [] calls).1, c.id ≠ "") ∧
      ∀ (i : Nat) (c c' : ToolCall), calls[i]? = some c → (renewIds String.isEmpty ids [] calls).1[i]? = some c' →
        (c'.id = c.id ↔ c.id ≠ "" ∧ c.id ∉ (calls.take i).map (·.id)) := by
  have hown : ∀ c ∈ calls, c.id ∈ "" :: calls.map (·.id) := fun c hc =>
    List.mem_cons_of_mem _ (List.mem_map_of_mem hc)
  have hbad : ∀ id, String.isEmpty id = true → id ∈ "" :: calls.map (·.id) := fun id hid =>
    List.mem_cons.mpr (.inl (by simpa using hid))
  obtain ⟨hdifferent, husable⟩ := renewIds_distinct hfresh (List.forall_mem_nil _) hown hbad
  refine ⟨hdifferent, fun c hc => by simpa using (husable c hc).2, fun i c c' hc hc' => ?_⟩
  rw [renewIds_keeps_iff hfresh hown hc hc']
  simp

theorem completion_calls (ids : IdSupply) (text : String) (c : ToolCall) (cs : List ToolCall) :
    Gathered.completion ids ⟨text, c :: cs⟩ =
      if (c :: cs).any (·.toolName.isEmpty) then (.error (.malformed "tool call without a function name"), ids)
      else (.ok (.batch (Text.nonBlank? text) (renewIds String.isEmpty ids [] (c :: cs)).1),
        (renewIds String.isEmpty ids [] (c :: cs)).2) := by
  unfold Gathered.completion
  cases Text.nonBlank? text <;> rfl

theorem completion_amounts (ids : IdSupply) (g : Gathered) : Amounts ids g.text g.calls (g.completion ids) := by
  obtain ⟨text, calls⟩ := g
  cases calls with
  | nil =>
      refine ⟨fun _ hblank => ?_, fun _ hblank => ?_, fun ⟨_, hc, _⟩ => (List.not_mem_nil hc).elim,
        fun hne => absurd rfl hne⟩
      · simp [Gathered.completion, Text.nonBlank?, hblank]
      · simp [Gathered.completion, Text.nonBlank?, hblank]
  | cons c cs =>
      refine ⟨nofun, nofun, fun hnameless => ?_, fun _ hnamed => ?_⟩
      · have hany : (c :: cs).any (·.toolName.isEmpty) = true := by
          simpa only [List.any_eq_true, String.isEmpty_iff] using hnameless
        rw [completion_calls, if_pos hany]
      · have hall : ¬(c :: cs).any (·.toolName.isEmpty) = true := by
          simpa only [List.any_eq_true, String.isEmpty_iff, not_exists, not_and] using hnamed
        rw [completion_calls, if_neg hall]
        exact ⟨_, rfl, renewIds_requests _ _ _ _, renewed_calls⟩

namespace ProviderClient

/-- A stream amounts to what comes before its first end: the first failure there, or else what its text as a whole and
its calls amount to. So the same text and calls amount to the same, however they are cut and put between each other. -/
theorem stream_outcome (ids : IdSupply) (events : List StreamEvent) :
    outcome ids (.ok events) = outcome ids (.ok (counted events)) ∧
      (∀ reason more, failuresOf (counted events) = reason :: more →
        outcome ids (.ok events) = (.error (.unreachable ("stream error: " ++ reason)), ids)) ∧
      (failuresOf (counted events) = [] →
        Amounts ids (textOf (counted events)) (callsOf (counted events)) (outcome ids (.ok events))) ∧
      ∀ others : List StreamEvent, failuresOf (counted events) = failuresOf (counted others) →
        textOf (counted events) = textOf (counted others) → callsOf (counted events) = callsOf (counted others) →
        outcome ids (.ok events) = outcome ids (.ok others) := by
  have houtcome (es : List StreamEvent) : outcome ids (.ok es) = completionOf ids es := rfl
  refine ⟨?_, fun reason more hfailed => ?_, fun hnone => ?_, fun others hfailures htext hcalls => ?_⟩
  · rw [houtcome, houtcome, completionOf, completionOf, gather_eq, gather_eq, counted_counted]
  · rw [houtcome, completionOf, gather_eq, hfailed]
    rfl
  · have hgathered := completion_amounts ids ⟨textOf (counted events), callsOf (counted events)⟩
    rw [houtcome, completionOf, gather_eq, hnone]
    simpa using hgathered
  · rw [houtcome, houtcome, completionOf, completionOf, gather_eq, gather_eq, hfailures, htext, hcalls]

/-- Two calls of one id and one without an id, between chunks of text; what comes behind the end does not count. -/
def repeatedCalls : List StreamEvent :=
  [.text "Let me ", .call ⟨"a", "clock", .null⟩, .other, .call ⟨"a", "calendar", .null⟩, .text "look.",
    .call ⟨"", "clock", .obj []⟩, .done, .failed "gone", .call ⟨"b", "", .null⟩]

/-- The ids `x`, `xx` and so on. -/
def manyXs : IdSupply := ⟨fun n => String.ofList (List.replicate (n + 1) 'x'), 0⟩

theorem stream_outcome_sample : failuresOf (counted repeatedCalls) = [] ∧
    manyXs.FreshBelow (outcome manyXs (.ok repeatedCalls)).2.next ("" :: (callsOf (counted repeatedCalls)).map (·.id)) ∧
    ∃ renewed, (outcome manyXs (.ok repeatedCalls)).1 = .ok (.batch (some "Let me look.") renewed) ∧
      renewed.map ToolCall.request = [("clock", .null), ("calendar", .null), ("clock", .obj [])] ∧
      (renewed.map (·.id)).Nodup ∧ (∀ c ∈ renewed, c.id ≠ "") ∧
      outcome manyXs (.ok repeatedCalls) = outcome manyXs (.ok [.call ⟨"a", "clock", .null⟩, .text "Let me look.",
        .call ⟨"a", "calendar", .null⟩, .call ⟨"", "clock", .obj []⟩]) := by
  have hnone : failuresOf (counted repeatedCalls) = [] := rfl
  have hfresh : manyXs.FreshBelow (outcome manyXs (.ok repeatedCalls)).2.next
      ("" :: (callsOf (counted repeatedCalls)).map (·.id)) := by decide +kernel
  obtain ⟨-, -, hamounts, hsame⟩ := stream_outcome manyXs repeatedCalls
  have hnamed : ∀ c ∈ callsOf (counted repeatedCalls), c.toolName ≠ "" := by
    simp [callsOf, counted, repeatedCalls, isDone, List.filterMap, call?]
  obtain ⟨renewed, hmade, hrequests, hids⟩ := (hamounts hnone).batch (List.cons_ne_nil _ _) hnamed
  obtain ⟨hdifferent, hnonempty, -⟩ := hids hfresh
  have hspoken : ¬Text.isAllBlank (textOf (counted repeatedCalls)) = true := by
    rw [Text.isAllBlank, String.all_bool_eq]
    decide +kernel
  rw [if_neg hspoken] at hmade
  exact ⟨hnone, hfresh, renewed, hmade, hrequests, hdifferent, hnonempty, hsame _ rfl rfl rfl⟩

end ProviderClient

end Colloquy
