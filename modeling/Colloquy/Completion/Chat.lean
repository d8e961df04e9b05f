import Colloquy.Conversation.Message
import Colloquy.Text.Blank

/-! What goes to a provider: a chat, made of the messages of a snapshot, one for one. The text and the
calls of an assistant travel in one message, and the result of a call as the answer to its id. -/

namespace Colloquy

inductive ChatPart where
  | text (text : String)
  | call (call : ToolCall)

inductive ChatMessage where
  | system (text : String)
  | user (text : String)
  | assistant (parts : List ChatPart)
  | toolResponse (callId content : String)

structure ChatRequest where
  model : String
  maxTokens : Nat
  messages : List ChatMessage
  tools : List ToolSchema

/-- The parts of what an assistant said; empty text beside calls is left out. -/
def chatParts (text : Option String) (calls : List ToolCall) : List ChatPart :=
  if calls.isEmpty then [.text (text.getD "")]
  else ((text.bind Text.nonEmpty?).map ChatPart.text).toList ++ calls.map ChatPart.call

def Message.toChat : Message → ChatMessage
  | .system t => .system t
  | .user t => .user t
  | .assistant t calls => .assistant (chatParts t calls)
  | .toolResult r => .toolResponse r.callId r.payload.payloadText

/-- The chat of some messages. -/
def chatOf (messages : List Message) : List ChatMessage := messages.map Message.toChat

/-! ### JSON form -/

namespace ChatPart

def text? : ChatPart → Option String
  | .text t => some t
  | .call _ => none

def call? : ChatPart → Option ToolCall
  | .text _ => none
  | .call c => some c

end ChatPart

/-- A call in a chat; its arguments are the text of their JSON form. -/
def chatCallJson (c : ToolCall) : Json :=
  .obj [("id", c.id), ("type", "function"),
    ("function", .obj [("name", c.toolName), ("arguments", c.arguments.compact)])]

def ChatMessage.toJson : ChatMessage → Json
  | .system t => .obj [("role", "system"), ("content", t)]
  | .user t => .obj [("role", "user"), ("content", t)]
  | .toolResponse id content => .obj [("role", "tool"), ("content", content), ("tool_call_id", id)]
  | .assistant parts =>
    let calls := parts.filterMap ChatPart.call?
    .obj ([("role", .str "assistant"), ("content", .str ("\n\n".intercalate (parts.filterMap ChatPart.text?)))] ++
      if calls.isEmpty then [] else [("tool_calls", .arr (calls.map chatCallJson))])

def chatToolJson (t : ToolSchema) : Json :=
  .obj [("type", "function"), ("function", .obj [("name", t.name), ("description", t.description),
    ("parameters", t.parameters), ("strict", false)])]

/-- The body that is sent; tools are left out when there are none. -/
def ChatRequest.toJson (r : ChatRequest) : Json :=
  .obj ([("model", .str r.model), ("messages", .arr (r.messages.map ChatMessage.toJson)), ("stream", .bool true),
    ("max_tokens", .nat r.maxTokens)] ++ if r.tools.isEmpty then [] else [("tools", .arr (r.tools.map chatToolJson))])

end Colloquy
