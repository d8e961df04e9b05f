import Colloquy.Conversation.Message
import Colloquy.Decode.Basic

/-! Messages as JSON records, told apart by their `role`. An absent text and an empty list of calls
are left out when writing. -/

namespace Colloquy

def ToolCall.toJson (c : ToolCall) : Json :=
  .obj [("id", c.id), ("tool_name", c.toolName), ("arguments", c.arguments)]

def ToolCall.decode (setting : Decode.Setting) : Json → Decode.Result ToolCall :=
  Decode.record "ToolCallRequest" 3 setting
    (ToolCall.mk <$> Decode.required "id" 0 Decode.text
      <*> Decode.required "tool_name" 1 Decode.text
      <*> Decode.required "arguments" 2 Decode.anything)

namespace Message

def textMember : Option String → Json.Members
  | some t => [("text", .str t)]
  | none => []

def callsMember : List ToolCall → Json.Members
  | [] => []
  | cs => [("tool_calls", .arr (cs.map ToolCall.toJson))]

def toJson : Message → Json
  | .user t => .obj [("role", "user"), ("text", t)]
  | .system t => .obj [("role", "system"), ("text", t)]
  | .assistant t cs => .obj (("role", .str "assistant") :: textMember t ++ callsMember cs)
  | .toolResult r => .obj [("role", "tool_result"), ("tool_call_id", r.callId), ("tool_name", r.toolName),
      ("payload", r.payload), ("is_error", r.isError)]

/-- The kinds of message as they are named in JSON. -/
inductive Tag where
  | user | system | assistant | toolResult
deriving DecidableEq, Repr

def Tag.known : List (String × Tag) :=
  [("user", .user), ("system", .system), ("assistant", .assistant), ("tool_result", .toolResult)]

def Tag.decode : Json → Decode.Result Tag
  | .str s => match Tag.known.lookup s with
    | some t => .ok t
    | none => .error (.unknownVariant s (Tag.known.map (·.1)))
  | j => Decode.wrongKind j .variantName

open Decode in
def variant (name : String) (size : Nat) (reading : Reading Message) : Slots → Result Message :=
  fields (.fieldsOf s!"variant Message::{name}" size) size .tagged reading

/-- The fields that follow the tag. -/
def decodeFields : Tag → Decode.Slots → Decode.Result Message
  | .user => variant "User" 1 (Message.user <$> Decode.required "text" 0 Decode.text)
  | .system => variant "System" 1 (Message.system <$> Decode.required "text" 0 Decode.text)
  | .assistant => variant "Assistant" 2
      (Message.assistant <$> Decode.optional "text" 0 Decode.text
        <*> Decode.defaulted "tool_calls" 1 (Decode.list (ToolCall.decode .tagged)) [])
  | .toolResult => variant "ToolResult" 4
      ((fun id name payload isError => Message.toolResult ⟨id, name, payload, isError⟩)
        <$> Decode.required "tool_call_id" 0 Decode.text
        <*> Decode.required "tool_name" 1 Decode.text
        <*> Decode.required "payload" 2 Decode.anything
        <*> Decode.defaulted "is_error" 3 Decode.boolean false)

/-- Reads a message from an object with a `role`, or from an array that starts with the role. -/
def decode : Json → Decode.Result Message
  | .obj members => match members.lookup "role" with
    | none => .error (.missingField "role")
    | some r => (Tag.decode r).bind (fun tag => decodeFields tag (.named members))
  | .arr [] => .error (.missingField "role")
  | .arr (r :: items) => (Tag.decode r).bind (fun tag => decodeFields tag (.positional items))
  | j => Decode.wrongKind j (.tagged "Message")

def decodeAll : Json → Decode.Result (List Message) := Decode.list decode

end Message

end Colloquy
