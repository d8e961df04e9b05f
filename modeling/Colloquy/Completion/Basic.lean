import Colloquy.Conversation.History

/-! What a completion service answers, and the local limit on the size of a request. -/

namespace Colloquy

inductive Completion where
  | answer (text : String)
  | batch (text : Option String) (calls : List ToolCall)

inductive CompletionError where
  | unreachable (reason : String)
  | malformed (reason : String)
  | overBudget (size limit : Nat)
deriving DecidableEq, Repr

abbrev CompletionResult := Except CompletionError Completion

def CompletionError.message : CompletionError → String
  | .unreachable reason => s!"Completion service unreachable: {reason}"
  | .malformed reason => s!"Malformed completion response: {reason}"
  | .overBudget size limit => s!"Request exceeds budget: {size} chars (limit {limit})"

def Completion.text? : Completion → Option String
  | .answer t => some t
  | .batch t _ => t

/-! ### Size -/

/-- The sum of a measure over a list. -/
def totalOf {α : Type} (measure : α → Nat) (xs : List α) : Nat := xs.foldr (fun x n => measure x + n) 0

/-- What a call counts: its tool's name and its arguments, in UTF-8 bytes. -/
def ToolCall.chars (c : ToolCall) : Nat := c.toolName.utf8ByteSize + c.arguments.compact.utf8ByteSize

def Message.chars (m : Message) : Nat :=
  (m.text?.elim 0 String.utf8ByteSize) + (m.payloadText?.elim 0 String.utf8ByteSize) + totalOf ToolCall.chars m.calls

def ToolSchema.chars (t : ToolSchema) : Nat :=
  t.name.utf8ByteSize + t.description.utf8ByteSize + t.parameters.compact.utf8ByteSize

/-- The estimated size of a request. -/
def requestChars (messages : List Message) (tools : List ToolSchema) : Nat :=
  totalOf Message.chars messages + totalOf ToolSchema.chars tools

/-- Refuses a request that is larger than the limit. -/
def checkBudget (messages : List Message) (tools : List ToolSchema) (limit : Nat) : Except CompletionError Unit :=
  let size := requestChars messages tools
  if limit < size then .error (.overBudget size limit) else .ok ()

end Colloquy
