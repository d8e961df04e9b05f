import Mathlib.Data.List.DropRight
import Mathlib.Data.List.Induction
import Colloquy.Completion.Scripted

/-! The echo of a conversation, read from its start. What is echoed are the results of tools behind the last message of
the user, or else that message (`told`); the echo is found by going back from the end, and comes to the same
(`echo_told`). -/

namespace Colloquy

namespace Message

def said? : Message → Option String
  | .user text => some text
  | _ => none

def result? : Message → Option ToolResult
  | .toolResult r => some r
  | _ => none

/-- The message is the user's, or the result of a tool. -/
def isHeard (m : Message) : Bool := m.said?.isSome || m.result?.isSome

end Message

namespace ScriptedClient

/-- What the user said last. -/
def lastSaid? (messages : List Message) : Option String := (messages.filterMap Message.said?).getLast?

/-- The messages behind the last one of the user; all of them where there is none. -/
def sinceSaid (messages : List Message) : List Message := messages.rtakeWhile (·.said?.isNone)

/-- The results of tools behind the last message of the user, each as a line. -/
def linesSince (messages : List Message) : List String :=
  ((sinceSaid messages).filterMap Message.result?).map fun r => r.toolName ++ ": " ++ r.payload.payloadText

/-- The lines if there are any, and else what was said. -/
def linesOr (said : Option String) : List String → String
  | [] => said.elim nothingToEcho ("You said: " ++ ·)
  | line :: lines => "\n".intercalate (line :: lines)

/-- What a conversation is echoed with. -/
def told (messages : List Message) : String := linesOr (lastSaid? messages) (linesSince messages)

/-! ### One more message -/

variable (messages : List Message)

theorem lastSaid?_concat_of_none {m : Message} (hm : m.said? = none) :
    lastSaid? (messages ++ [m]) = lastSaid? messages := by
  simp [lastSaid?, List.filterMap_append, hm]

theorem lastSaid?_concat_user (text : String) : lastSaid? (messages ++ [.user text]) = some text := by
  simp [lastSaid?, List.filterMap_append, Message.said?]

theorem linesSince_concat_user (text : String) : linesSince (messages ++ [.user text]) = [] := by
  simp [linesSince, sinceSaid, Message.said?]

theorem linesSince_concat_result (r : ToolResult) :
    linesSince (messages ++ [.toolResult r]) = linesSince messages ++ [resultLine r] := by
  have hline : resultLine r = r.toolName ++ ": " ++ r.payload.payloadText := rfl
  simp [linesSince, sinceSaid, Message.said?, Message.result?, hline]

theorem said?_of_unheard {m : Message} (hm : m.isHeard = false) : m.said? = none := by
  rw [Message.isHeard, Bool.or_eq_false_iff, Option.isSome_eq_false_iff, Option.isNone_iff_eq_none] at hm
  exact hm.1

theorem linesSince_concat_unheard {m : Message} (hm : m.isHeard = false) :
    linesSince (messages ++ [m]) = linesSince messages := by
  simp only [Message.isHeard, Bool.or_eq_false_iff, Option.isSome_eq_false_iff, Option.isNone_iff_eq_none] at hm
  simp [linesSince, sinceSaid, hm.1, hm.2]

/-! ### The echo -/

theorem echoBack_eq (lines : List String) :
    echoBack messages.reverse lines = .answer (linesOr (lastSaid? messages) (linesSince messages ++ lines)) := by
  -- From the last message, since the way back starts there; the lines met so far come behind those still to be met.
  induction messages using List.reverseRecOn generalizing lines with
  | nil => cases lines <;> rfl
  | append_singleton messages m ih =>
      rw [List.reverse_append, List.reverse_singleton, List.singleton_append]
      have hunheard (hm : m.isHeard = false) : echoBack messages.reverse lines =
          .answer (linesOr (lastSaid? (messages ++ [m])) (linesSince (messages ++ [m]) ++ lines)) := by
        rw [ih, lastSaid?_concat_of_none messages (said?_of_unheard hm), linesSince_concat_unheard messages hm]
      cases m with
      | user text =>
          rw [lastSaid?_concat_user, linesSince_concat_user]
          cases lines <;> rfl
      | toolResult r =>
          rw [echoBack, ih, lastSaid?_concat_of_none messages rfl, linesSince_concat_result, List.append_assoc,
            List.singleton_append]
      | assistant text calls => exact hunheard rfl
      | system text => exact hunheard rfl

theorem echo_eq_told : echo messages = .answer (told messages) := by
  rw [echo, echoBack_eq, List.append_nil, told]

/-! ### What has no influence -/

theorem told_behind_user (before : List Message) (text : String) :
    told (before ++ .user text :: messages) = told (.user text :: messages) := by
  have hsaid : lastSaid? (before ++ .user text :: messages) = lastSaid? (.user text :: messages) := by
    rw [lastSaid?, lastSaid?, List.filterMap_append, List.getLast?_append,
      List.filterMap_cons_some (show Message.said? (.user text) = some text from rfl),
      List.getLast?_eq_some_getLast (List.cons_ne_nil _ _), Option.some_or]
  have hsince : sinceSaid (before ++ .user text :: messages) = sinceSaid (.user text :: messages) := by
    simp [sinceSaid, List.rtakeWhile, List.takeWhile_append, Message.said?]
  rw [told, told, linesSince, linesSince, hsaid, hsince]

theorem told_filter_isHeard : told (messages.filter Message.isHeard) = told messages := by
  have hparts : lastSaid? (messages.filter Message.isHeard) = lastSaid? messages ∧
      linesSince (messages.filter Message.isHeard) = linesSince messages := by
    induction messages using List.reverseRecOn with
    | nil => exact ⟨rfl, rfl⟩
    | append_singleton messages m ih =>
        obtain ⟨hsaid, hlines⟩ := ih
        rw [List.filter_append]
        cases hheard : m.isHeard with
        | false =>
            have hdropped : [m].filter Message.isHeard = [] := List.filter_cons_of_neg (by simp [hheard])
            rw [hdropped, List.append_nil, hsaid, hlines, lastSaid?_concat_of_none _ (said?_of_unheard hheard),
              linesSince_concat_unheard _ hheard]
            exact ⟨rfl, rfl⟩
        | true =>
            have hkept : [m].filter Message.isHeard = [m] := List.filter_cons_of_pos hheard
            rw [hkept]
            cases m with
            | user text =>
                rw [lastSaid?_concat_user, lastSaid?_concat_user, linesSince_concat_user, linesSince_concat_user]
                exact ⟨rfl, rfl⟩
            | toolResult r =>
                rw [lastSaid?_concat_of_none _ rfl, lastSaid?_concat_of_none _ rfl, linesSince_concat_result,
                  linesSince_concat_result, hsaid, hlines]
                exact ⟨rfl, rfl⟩
            | assistant text calls => cases hheard
            | system text => cases hheard
  rw [told, told, hparts.1, hparts.2]

/-- A conversation is echoed with the results of tools behind the last message of the user, one on a line, or else with
that message. What comes before that message has no influence, and neither have the other messages. A client that
echoes answers each request so. -/
theorem echo_told :
    echo messages = .answer (told messages) ∧
      (∀ before text, echo (before ++ .user text :: messages) = echo (.user text :: messages)) ∧
      echo (messages.filter Message.isHeard) = echo messages ∧
      ∀ requests missing tools,
        (({ requests, whenExhausted := .echo } : ScriptedClient).request ⟨messages, missing⟩ tools).1 =
          .ok (.answer (told messages)) := by
  refine ⟨echo_eq_told messages, ?_, ?_, ?_⟩
  · intro before text
    rw [echo_eq_told, echo_eq_told, told_behind_user]
  · rw [echo_eq_told, echo_eq_told, told_filter_isHeard]
  · intro requests missing tools
    rw [← echo_eq_told]
    rfl

/-- Results are echoed although the user has said nothing. -/
example : echo [.toolResult ⟨"c1", "a", "x", false⟩, .system "s", .toolResult ⟨"c2", "b", "y", true⟩] =
    .answer "a: x\nb: y" := by
  rfl

end ScriptedClient

end Colloquy
