import Colloquy.Conversation.History
import Colloquy.Proofs.Json.Members
import Colloquy.Proofs.Json.Pretty

/-! Messages that are written and read again. A message is read by its role and by what stands under the keys of its
fields, so the order of the members does not matter (`decode_user` and the lemmas beside it): it comes back from the
record that is written (`decode_toJson`) and from the same value with its members in order (`decode_sorted`). A history
comes back from its array, and from the text of that array (`read_debugText`). -/

namespace Colloquy

namespace Json

theorem sortedMembers_eq_foldl (members done : Members) : sortedMembers members done =
    (members.map fun m => (m.1, m.2.sorted)).foldl (fun ms m => insert m.1 m.2 ms) done := by
  induction members generalizing done with
  | nil => rfl
  | cons m members ih => exact ih _

/-- Putting the members in order changes nothing about what is found under a key. -/
theorem lookup_sortedMembers {members : Members} (hkeys : (members.map Prod.fst).Nodup) (key : String) :
    (sortedMembers members []).lookup key = (members.lookup key).map sorted := by
  have hmapped : ((members.map fun m => (m.1, m.2.sorted)).map Prod.fst).Nodup := by
    rwa [List.map_map]
  rw [sortedMembers_eq_foldl, ← lookup_mapped]
  exact lookup_arranged hmapped key

end Json

open Decode

/-! ### Calls -/

namespace ToolCall

/-- The call with something else made of its arguments. -/
def mapJson (f : Json → Json) (c : ToolCall) : ToolCall := { c with arguments := f c.arguments }

theorem decode_members {setting : Setting} {members : Json.Members} {id name : String} {arguments : Json}
    (hid : members.lookup "id" = some (.str id)) (hname : members.lookup "tool_name" = some (.str name))
    (harguments : members.lookup "arguments" = some arguments) :
    decode setting (.obj members) = .ok ⟨id, name, arguments⟩ :=
  record_obj (run_seq (run_seq (run_map (run_required hid rfl)) (run_required hname rfl)) (run_required harguments rfl))

theorem decode_toJson (setting : Setting) (c : ToolCall) : decode setting c.toJson = .ok c :=
  decode_members rfl rfl rfl

theorem decode_sorted (setting : Setting) (c : ToolCall) :
    decode setting c.toJson.sorted = .ok (c.mapJson Json.sorted) :=
  decode_members rfl rfl rfl

end ToolCall

namespace Message

/-- The message with something else made of the values that it carries. -/
def mapJson (f : Json → Json) : Message → Message
  | .assistant text calls => .assistant text (calls.map (·.mapJson f))
  | .toolResult r => .toolResult { r with payload := f r.payload }
  | m => m

/-- The fields of a message as they are written, its role among them. -/
def members : Message → Json.Members
  | .user t => [("role", "user"), ("text", t)]
  | .system t => [("role", "system"), ("text", t)]
  | .assistant t cs => ("role", .str "assistant") :: textMember t ++ callsMember cs
  | .toolResult r => [("role", "tool_result"), ("tool_call_id", r.callId), ("tool_name", r.toolName),
      ("payload", r.payload), ("is_error", r.isError)]

theorem toJson_eq (m : Message) : m.toJson = .obj m.members := by
  cases m <;> rfl

/-! ### Reading a message -/

section Reading

variable {members : Json.Members}

theorem decode_obj {name : String} {tag : Tag}
    (hrole : members.lookup "role" = some (.str name)) (htag : Tag.known.lookup name = some tag) :
    decode (.obj members) = decodeFields tag (.named members) := by
  simp only [decode, hrole, Tag.decode, htag]
  rfl

theorem variant_named {name : String} {size : Nat} {reading : Reading Message} {m : Message}
    (hrun : reading.run (.named members) = .ok m) : variant name size reading (.named members) = .ok m := by
  simp only [variant, fields, hrun]

theorem decode_user {text : String} (hrole : members.lookup "role" = some (.str "user"))
    (htext : members.lookup "text" = some (.str text)) : decode (.obj members) = .ok (.user text) := by
  rw [decode_obj hrole rfl]
  exact variant_named (run_map (run_required htext rfl))

theorem decode_system {text : String} (hrole : members.lookup "role" = some (.str "system"))
    (htext : members.lookup "text" = some (.str text)) : decode (.obj members) = .ok (.system text) := by
  rw [decode_obj hrole rfl]
  exact variant_named (run_map (run_required htext rfl))

theorem decode_assistant {text : Option String} {calls : List ToolCall}
    (hrole : members.lookup "role" = some (.str "assistant")) (htext : members.lookup "text" = text.map .str)
    (hcalls : (defaulted "tool_calls" 1 (list (ToolCall.decode .tagged)) []).run (.named members) = .ok calls) :
    decode (.obj members) = .ok (.assistant text calls) := by
  have hrun : (optional "text" 0 Decode.text).run (.named members) = .ok text := by
    cases text with
    | none => exact run_defaulted_absent htext
    | some text => exact run_defaulted htext rfl
  rw [decode_obj hrole rfl]
  exact variant_named (run_seq (run_map hrun) hcalls)

theorem decode_toolResult {id name : String} {payload : Json} {isError : Bool}
    (hrole : members.lookup "role" = some (.str "tool_result"))
    (hid : members.lookup "tool_call_id" = some (.str id)) (hname : members.lookup "tool_name" = some (.str name))
    (hpayload : members.lookup "payload" = some payload)
    (hisError : members.lookup "is_error" = some (.bool isError)) :
    decode (.obj members) = .ok (.toolResult ⟨id, name, payload, isError⟩) := by
  rw [decode_obj hrole rfl]
  have hidRun : (required "tool_call_id" 0 Decode.text).run (.named members) = .ok id := run_required hid rfl
  have hnameRun : (required "tool_name" 1 Decode.text).run (.named members) = .ok name := run_required hname rfl
  have hpayloadRun : (required "payload" 2 anything).run (.named members) = .ok payload := run_required hpayload rfl
  have hisErrorRun : (defaulted "is_error" 3 boolean false).run (.named members) = .ok isError :=
    run_defaulted hisError rfl
  exact variant_named (run_seq (run_seq (run_seq (run_map hidRun) hnameRun) hpayloadRun) hisErrorRun)

end Reading

/-! ### Messages written and read -/

theorem lookup_text (text : Option String) (calls : List ToolCall) :
    (assistant text calls).members.lookup "text" = text.map .str := by
  cases text <;> cases calls <;> rfl

theorem lookup_calls (text : Option String) (calls : List ToolCall) : (assistant text calls).members.lookup "tool_calls" =
    if calls.isEmpty then none else some (.arr (calls.map ToolCall.toJson)) := by
  cases text <;> cases calls <;> rfl

theorem members_keys_nodup (m : Message) : (m.members.map Prod.fst).Nodup := by
  cases m with
  | assistant text calls => cases text <;> cases calls <;> simp [members, textMember, callsMember]
  | _ => simp [members]

/-- A message is read back from the record that is written for it. -/
theorem decode_toJson (m : Message) : decode m.toJson = .ok m := by
  rw [toJson_eq]
  cases m with
  | user text => exact decode_user rfl rfl
  | system text => exact decode_system rfl rfl
  | toolResult r => exact decode_toolResult rfl rfl rfl rfl rfl
  | assistant text calls =>
      have hcalls := lookup_calls text calls
      refine decode_assistant rfl (lookup_text text calls) ?_
      cases calls with
      | nil => exact run_defaulted_absent hcalls
      | cons c cs => exact run_defaulted hcalls (list_map (ToolCall.decode_toJson .tagged) (c :: cs))

/-- And from the same value with the members in order. -/
theorem decode_sorted (m : Message) : decode m.toJson.sorted = .ok (m.mapJson Json.sorted) := by
  have hlookup := Json.lookup_sortedMembers m.members_keys_nodup
  rw [toJson_eq, Json.sorted]
  cases m with
  | user text => exact decode_user (hlookup _) (hlookup _)
  | system text => exact decode_system (hlookup _) (hlookup _)
  | toolResult r => exact decode_toolResult (hlookup _) (hlookup _) (hlookup _) (hlookup _) (hlookup _)
  | assistant text calls =>
      have htext := hlookup "text"
      have hcalls := hlookup "tool_calls"
      rw [lookup_text, Option.map_map] at htext
      rw [lookup_calls] at hcalls
      refine decode_assistant (hlookup _) htext ?_
      cases calls with
      | nil => exact run_defaulted_absent hcalls
      | cons c cs =>
          refine run_defaulted hcalls ?_
          rw [Json.sorted, Json.sortedItems_eq_map, List.map_map]
          exact list_map_map (ToolCall.decode_sorted .tagged) (c :: cs)

/-- The values that the message carries have their members in order. -/
def Canonical (m : Message) : Prop := m.mapJson Json.sorted = m

end Message

namespace History

/-- The array of the entries. -/
def toJson (h : History) : Json := .arr (h.map Message.toJson)

theorem decodeAll_toJson (h : History) : Message.decodeAll h.toJson = .ok h :=
  list_map Message.decode_toJson h

theorem decodeAll_sorted {h : History} (hcanonical : ∀ m ∈ h, m.Canonical) :
    Message.decodeAll h.toJson.sorted = .ok h := by
  have hsame : h.map (Message.mapJson Json.sorted) = h := by
    rw [List.map_congr_left hcanonical, List.map_id']
  rw [toJson, Json.sorted, Json.sortedItems_eq_map, List.map_map]
  exact (list_map_map Message.decode_sorted h).trans (congrArg Except.ok hsame)

/-- The debug text is read as the array. -/
theorem read_debugText {h : History} (hportable : h.toJson.Portable) : Json.read h.debugText = .ok h.toJson.sorted :=
  Json.read_pretty hportable

/-- Every message is read back from the value that is written for it, in which an absent text and an empty list of
calls are left out, also when the members are put in order. So every history is read back from the array whose text is
its debug text, and from that text itself if it can be read; unequal histories have unequal arrays. -/
theorem messages_read_back :
    (∀ m : Message, Message.decode m.toJson = .ok m ∧ (m.Canonical → Message.decode m.toJson.sorted = .ok m)) ∧
      (∀ text calls, (Message.assistant text calls).toJson.get? "text" = text.map .str ∧
        (Message.assistant text calls).toJson.get? "tool_calls" =
          if calls.isEmpty then none else some (.arr (calls.map ToolCall.toJson))) ∧
      (∀ h : History, h.debugText = h.toJson.pretty ∧ Message.decodeAll h.toJson = .ok h ∧
        ((∀ m ∈ h, m.Canonical) → Message.decodeAll h.toJson.sorted = .ok h ∧
          (h.toJson.Portable → (Json.read h.debugText).toOption.map Message.decodeAll = some (.ok h)))) ∧
      ∀ h k : History, h ≠ k → h.toJson ≠ k.toJson ∧
        ((∀ m ∈ h, m.Canonical) → (∀ m ∈ k, m.Canonical) → h.toJson.sorted ≠ k.toJson.sorted) := by
  refine ⟨fun m => ⟨m.decode_toJson, fun hm => ?_⟩, fun text calls => ⟨?_, ?_⟩, fun h => ⟨rfl, h.decodeAll_toJson, ?_⟩,
    fun h k hne => ⟨fun heq => hne ?_, fun hh hk heq => hne ?_⟩⟩
  · rw [Message.decode_sorted, hm]
  · rw [Message.toJson_eq]
    exact Message.lookup_text text calls
  · rw [Message.toJson_eq]
    exact Message.lookup_calls text calls
  · intro hcanonical
    refine ⟨decodeAll_sorted hcanonical, fun hportable => ?_⟩
    rw [read_debugText hportable, Except.toOption, Option.map_some, decodeAll_sorted hcanonical]
  · rw [← Except.ok.injEq (ε := Decode.Fault), ← h.decodeAll_toJson, heq, k.decodeAll_toJson]
  · rw [← Except.ok.injEq (ε := Decode.Fault), ← decodeAll_sorted hh, heq, decodeAll_sorted hk]

/-- A call whose arguments, and a result whose payload, have the keys of a message. -/
def lookedAlike : History :=
  [.assistant none [⟨"c1", "clock", .obj [("role", "user"), ("text", .null)]⟩],
    .toolResult ⟨"c1", "clock", .obj [("is_error", true), ("tool_calls", .arr [.int 1])], false⟩]

theorem messages_read_back_sample : (∀ m ∈ lookedAlike, m.Canonical) ∧ lookedAlike.toJson.Portable ∧
    (∀ m ∈ lookedAlike, Message.decode m.toJson.sorted = .ok m) ∧
    (Json.read lookedAlike.debugText).toOption.map Message.decodeAll = some (.ok lookedAlike) ∧
    lookedAlike ≠ [] ∧ lookedAlike.toJson.sorted ≠ (toJson []).sorted := by
  have hcanonical : ∀ m ∈ lookedAlike, m.Canonical := by
    simp only [lookedAlike, List.forall_mem_cons]
    exact ⟨rfl, rfl, List.forall_mem_nil _⟩
  have hportable : lookedAlike.toJson.Portable := by
    have hnumbers : lookedAlike.toJson.numbers = [.int 1] := rfl
    refine ⟨by decide, fun n hn => ?_, fun x hx => ?_⟩
    · rw [hnumbers, List.mem_singleton, Number.int.injEq] at hn
      exact hn ▸ by decide
    · rw [hnumbers, List.mem_singleton] at hx
      cases hx
  obtain ⟨hmessage, -, hhistory, hdifferent⟩ := messages_read_back
  exact ⟨hcanonical, hportable, fun m hm => (hmessage m).2 (hcanonical m hm),
    ((hhistory lookedAlike).2.2 hcanonical).2 hportable, List.cons_ne_nil _ _,
    (hdifferent lookedAlike [] (List.cons_ne_nil _ _)).2 hcanonical (List.forall_mem_nil _)⟩

end History

end Colloquy
