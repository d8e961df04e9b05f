import Colloquy.Completion.Provider
import Colloquy.Proofs.Conversation.Snapshot

/-! Calls and results in what goes to a provider. The chat made of a snapshot has one message for each message there
(`Told`), so what fits together in the snapshot fits together in the chat (`Answered`). -/

namespace Colloquy

/-- What a chat message tells of a message. -/
inductive Told : Message → ChatMessage → Prop where
  | system (text : String) : Told (.system text) (.system text)
  | user (text : String) : Told (.user text) (.user text)
  /-- What is said goes in front of the calls. Only without calls may it be empty. -/
  | assistant {text : Option String} {calls : List ToolCall} {said : List String}
      (hsaid : said.filter (· ≠ "") = text.toList.filter (· ≠ "")) (hempty : calls ≠ [] → "" ∉ said) :
      Told (.assistant text calls) (.assistant (said.map ChatPart.text ++ calls.map ChatPart.call))
  | result (r : ToolResult) : Told (.toolResult r) (.toolResponse r.callId r.payload.payloadText)

/-- The calls in a chat message. -/
def ChatMessage.calls : ChatMessage → List ToolCall
  | .assistant parts => parts.filterMap ChatPart.call?
  | _ => []

/-- The calls of a history that are in a chat, and the responses there, by position. -/
structure Answered (h : History) (chat : List ChatMessage) : Prop where
  /-- No two calls have one id. -/
  once : ((chat.flatMap ChatMessage.calls).map (·.id)).Nodup
  /-- Every call has one response. That comes later, with the result that replies to the call in the history. -/
  answer : ∀ (i : Nat) (m : ChatMessage) (c : ToolCall), chat[i]? = some m → c ∈ m.calls →
    ∃ (j n : Nat) (r : ToolResult), i < j ∧ chat[j]? = some (.toolResponse c.id r.payload.payloadText) ∧
      h[n]? = some (.toolResult r) ∧ h.Replies n r ∧ r.callId = c.id ∧
      ∀ (j' : Nat) (content : String), chat[j']? = some (.toolResponse c.id content) → j' = j
  /-- Every response answers a call before it. -/
  issuer : ∀ (j : Nat) (id content : String), chat[j]? = some (.toolResponse id content) →
    ∃ (i : Nat) (m : ChatMessage) (c : ToolCall), i < j ∧ chat[i]? = some m ∧ c ∈ m.calls ∧ c.id = id

/-! ### One message -/

/-- What is said beside calls, unless it is empty. -/
theorem chatParts_cons (text : Option String) (c : ToolCall) (cs : List ToolCall) :
    chatParts text (c :: cs) =
      (text.toList.filter (· ≠ "")).map ChatPart.text ++ (c :: cs).map ChatPart.call := by
  have hsaid : ((text.bind Text.nonEmpty?).map ChatPart.text).toList =
      (text.toList.filter (· ≠ "")).map ChatPart.text := by
    cases text with
    | none => rfl
    | some t => by_cases ht : t = "" <;> simp [Text.nonEmpty?, ht]
  rw [← hsaid]
  rfl

theorem told_toChat (m : Message) : Told m m.toChat := by
  cases m with
  | system text => exact .system text
  | user text => exact .user text
  | toolResult r => exact .result r
  | assistant text calls =>
      cases calls with
      | nil =>
          have hsaid : [text.getD ""].filter (· ≠ "") = text.toList.filter (· ≠ "") := by cases text <;> rfl
          exact .assistant hsaid (absurd rfl)
      | cons c cs =>
          rw [Message.toChat, chatParts_cons]
          exact .assistant (by rw [List.filter_filter]; simp) (by simp)

theorem Told.calls {m : Message} {sent : ChatMessage} (ht : Told m sent) : sent.calls = m.calls := by
  cases ht with
  | assistant hsaid hempty => simp [ChatMessage.calls, Message.calls, List.filterMap_append, List.filterMap_map,
      Function.comp_def, ChatPart.call?]
  | _ => rfl

@[simp] theorem Message.calls_toChat (m : Message) : m.toChat.calls = m.calls := (told_toChat m).calls

/-- Only a result becomes a response. -/
theorem Message.toChat_eq_toolResponse {m : Message} {id content : String} (hm : m.toChat = .toolResponse id content) :
    ∃ r : ToolResult, m = .toolResult r ∧ r.callId = id ∧ r.payload.payloadText = content := by
  cases m with
  | toolResult r => exact ⟨r, rfl, by simpa [toChat] using hm⟩
  | _ => cases hm

/-! ### The chat of a snapshot -/

variable {h : History}

theorem chatOf_at {messages : List Message} {i : Nat} {sent : ChatMessage} :
    (chatOf messages)[i]? = some sent ↔ ∃ m, messages[i]? = some m ∧ m.toChat = sent := by
  rw [chatOf, List.getElem?_map, Option.map_eq_some_iff]

theorem forall₂_told (messages : List Message) : List.Forall₂ Told messages (chatOf messages) := by
  rw [chatOf, List.forall₂_map_right_iff, List.forall₂_same]
  exact fun m _ => told_toChat m

theorem answered_chatOf (h : History) : Answered h (chatOf (h.keptOf h)) where
  once := by
    have honce := (History.settled_keptOf h).matched.once
    simpa [chatOf, List.flatMap_map, History.issuedIds, History.calls] using honce
  answer i sent c hi hc := by
    obtain ⟨m, hm, rfl⟩ := chatOf_at.mp hi
    rw [Message.calls_toChat] at hc
    obtain ⟨j, r, hlt, hj, hid, hone⟩ := (History.settled_keptOf h).matched.answer i m c hm hc
    obtain ⟨n, hn, hreplies⟩ := History.mem_keptOf.mp (List.mem_of_getElem? hj)
    refine ⟨j, n, r, hlt, chatOf_at.mpr ⟨_, hj, hid ▸ rfl⟩, hn, hreplies, hid, fun j' content hj' => ?_⟩
    obtain ⟨m', hm', hresponse⟩ := chatOf_at.mp hj'
    obtain ⟨r', rfl, hid', -⟩ := Message.toChat_eq_toolResponse hresponse
    exact hone j' r' hm' hid'
  issuer j id content hj := by
    obtain ⟨m, hm, hresponse⟩ := chatOf_at.mp hj
    obtain ⟨r, rfl, rfl, -⟩ := Message.toChat_eq_toolResponse hresponse
    obtain ⟨i, m, c, hlt, hi, hc, hid⟩ := (History.settled_keptOf h).matched.issuer j r hm
    exact ⟨i, m.toChat, c, hlt, chatOf_at.mpr ⟨m, hi, rfl⟩, by rwa [Message.calls_toChat], hid⟩

namespace ProviderClient

/-- What is sent of any history tells the messages of its snapshot, one by one and in order. Every call there has one
response, and no response is without its call. -/
theorem chatRequest_paired (p : ProviderConfig) (h : History) (tools : List ToolSchema) :
    List.Forall₂ Told h.snapshot.messages (chatRequest p h.snapshot tools).messages ∧
      Answered h (chatRequest p h.snapshot tools).messages := by
  have hsent : (chatRequest p h.snapshot tools).messages = chatOf (h.keptOf h) :=
    congrArg chatOf (History.snapshot_messages h)
  rw [hsent, History.snapshot_messages]
  exact ⟨forall₂_told _, answered_chatOf h⟩

end ProviderClient

end Colloquy
