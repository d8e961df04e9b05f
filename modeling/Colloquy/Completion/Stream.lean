import Colloquy.Completion.Basic
import Colloquy.Conversation.Ids
import Colloquy.Text.Blank

/-! The stream of events in which a provider answers, and the completion that it amounts to. Only what
comes before the end counts; neither the cut of the text into chunks nor the place of a call between
them matters. -/

namespace Colloquy

inductive StreamEvent where
  | text (chunk : String)
  | call (call : ToolCall)
  /-- Something that has no part in the completion, such as reasoning. -/
  | other
  | done
  | failed (reason : String)

/-- The text and the calls of a stream. -/
structure Gathered where
  text : String := ""
  calls : List ToolCall := []

/-- Gathers a stream up to its end, behind what is gathered already. -/
def gather (g : Gathered) : List StreamEvent → Except CompletionError Gathered
  | [] | .done :: _ => .ok g
  | .text chunk :: rest => gather { g with text := g.text ++ chunk } rest
  | .call c :: rest => gather { g with calls := g.calls ++ [c] } rest
  | .other :: rest => gather g rest
  | .failed reason :: _ => .error (.unreachable s!"stream error: {reason}")

/-- The completion in what was gathered. Blank text is none; calls without an id of their own, or with
that of an earlier one, get a new id. -/
def Gathered.completion (ids : IdSupply) (g : Gathered) : CompletionResult × IdSupply :=
  match g.calls, Text.nonBlank? g.text with
  | [], some text => (.ok (.answer text), ids)
  | [], none => (.error (.malformed "response had neither text nor tool calls"), ids)
  | call :: rest, text =>
    if (call :: rest).any (·.toolName.isEmpty) then (.error (.malformed "tool call without a function name"), ids)
    else
      let (calls, ids) := renewIds String.isEmpty ids [] (call :: rest)
      (.ok (.batch text calls), ids)

/-- The completion that a stream amounts to. -/
def completionOf (ids : IdSupply) (events : List StreamEvent) : CompletionResult × IdSupply :=
  match gather {} events with
  | .error e => (.error e, ids)
  | .ok g => g.completion ids

end Colloquy
