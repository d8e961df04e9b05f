import Colloquy.Decode.Basic

/-! JSON-RPC frames: requests, notifications and responses. -/

namespace Colloquy.Rpc

/-- The version named in every frame. -/
def version : String := "2.0"

/-- What a response is matched by: a number of 64 bits or a text. -/
inductive RequestId where
  | number (n : Int64)
  | text (s : String)
deriving DecidableEq, Repr

structure Request where
  jsonrpc : String := version
  id : RequestId
  method : String
  params : Option Json := none

/-- A message that is never answered. -/
structure Notification where
  jsonrpc : String := version
  method : String
  params : Option Json := none

structure RpcError where
  code : Int32
  message : String
  data : Option Json := none

structure Response where
  jsonrpc : String := version
  /-- Nothing for an error raised before the id could be read. -/
  id : Option RequestId
  result : Option Json := none
  error : Option RpcError := none

namespace RpcError

def parseError : RpcError := { code := -32700, message := "Parse error" }
def invalidRequest : RpcError := { code := -32600, message := "Invalid request" }
def methodNotFound : RpcError := { code := -32601, message := "Method not found" }
def invalidParams : RpcError := { code := -32602, message := "Invalid params" }

end RpcError

def Response.success (id : RequestId) (result : Json) : Response := { id := some id, result := some result }

def Response.failure (id : Option RequestId) (error : RpcError) : Response := { id, error := some error }

/-! ### Writing -/

def RequestId.toJson : RequestId → Json
  | .number n => .int n.toInt
  | .text s => .str s

def RequestId.display : RequestId → String
  | .number n => s!"{n.toInt}"
  | .text s => s

/-- A member that is left out when there is no value. -/
def member? (key : String) (value : Option Json) : Json.Members :=
  match value with
  | some v => [(key, v)]
  | none => []

def Request.toJson (r : Request) : Json :=
  .obj ([("jsonrpc", .str r.jsonrpc), ("id", r.id.toJson), ("method", .str r.method)] ++ member? "params" r.params)

def Notification.toJson (n : Notification) : Json :=
  .obj ([("jsonrpc", .str n.jsonrpc), ("method", .str n.method)] ++ member? "params" n.params)

def RpcError.toJson (e : RpcError) : Json :=
  .obj ([("code", .int e.code.toInt), ("message", .str e.message)] ++ member? "data" e.data)

def Response.toJson (r : Response) : Json :=
  .obj ([("jsonrpc", .str r.jsonrpc), ("id", r.id.elim .null RequestId.toJson)] ++ member? "result" r.result
    ++ member? "error" (r.error.map RpcError.toJson))

end Colloquy.Rpc
