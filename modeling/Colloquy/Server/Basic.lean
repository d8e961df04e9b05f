import Colloquy.Rpc.Records
import Colloquy.Json.Reader
import Colloquy.Text.Blank

/-! A tool server: how requests are answered on behalf of a handler. The handler may have effects,
so everything is written for any monad. -/

namespace Colloquy.Server

open Rpc

universe u

/-- What a server serves. The error of a call is the text shown to the model. -/
structure Handler (m : Type → Type u) where
  tools : m (List ServerTool)
  call : String → Json → m (Except String Json)

/-- The name and version that a server gives. -/
structure Identity where
  name : String := "parley-mcp"
  version : String := "0.1.0"

variable {m : Type → Type u} [Monad m]

def welcomeJson (who : Identity) : Json :=
  .obj [("protocolVersion", protocolVersion),
    ("capabilities", Capabilities.toJson ⟨some {}⟩),
    ("serverInfo", .obj [("name", who.name), ("version", who.version)])]

/-- The result of a call: a failing tool is a result too. -/
def callResult : Except String Json → CallResult
  | .ok payload => .ofText payload.payloadText false
  | .error reason => .ofText reason true

/-- The name and the arguments in the parameters of a call; arguments left out are an empty object. -/
def callParams? (params : Option Json) : Option (String × Json) := do
  let p ← params
  let name ← (p.get "name").asText?
  some (name, (p.get? "arguments").getD (.obj []))

def success (id : RequestId) (result : Json) : Response := .success id result.sorted

/-- Answers a request. -/
def answer (h : Handler m) (who : Identity) (r : Request) : m Response :=
  if r.method = Method.handshake then pure (success r.id (welcomeJson who))
  else if r.method = Method.ping then pure (success r.id (.obj []))
  else if r.method = Method.toolsList then do
    let tools ← h.tools
    return success r.id (.obj [("tools", .arr (tools.map ServerTool.toJson))])
  else if r.method = Method.toolsCall then
    match callParams? r.params with
    | none => pure (.failure (some r.id) RpcError.invalidParams)
    | some (name, arguments) => do
      let result ← h.call name arguments
      return success r.id (callResult result).toJson
  else pure (.failure (some r.id) RpcError.methodNotFound)

/-- Answers a frame. Notifications and responses are not answered. -/
def answerFrame (h : Handler m) (who : Identity) (frame : Json) : m (Option Response) :=
  match classify frame with
  | .ok (.request r) => some <$> answer h who r
  | .ok (.notification _) | .ok (.response _) => pure none
  | .error _ => pure (some (.failure none RpcError.invalidRequest))

/-- Answers a line of text. -/
def answerLine (h : Handler m) (who : Identity) (line : String) : m (Option Response) :=
  if Text.isAllBlank line then pure none
  else match Json.read line with
    | .ok frame => answerFrame h who frame
    | .error _ => pure (some (.failure none RpcError.parseError))

/-- A response as a line. -/
def responseLine (r : Response) : String := r.toJson.compact ++ "\n"

end Colloquy.Server
