import Colloquy.Rpc.Frame

/-! Telling incoming frames apart: a frame with a `method` and an `id` is a request, one with a
`method` alone a notification, and every other frame a response. -/

namespace Colloquy.Rpc

open Decode

def RequestId.decode : Json → Result RequestId
  | .num (.int n) =>
    if Int64.minValue.toInt ≤ n && n ≤ Int64.maxValue.toInt then .ok (.number (Int64.ofInt n)) else .error (.noForm "RequestId")
  | .str s => .ok (.text s)
  | _ => .error (.noForm "RequestId")

def Request.decode : Json → Result Request :=
  record "JsonRpcRequest" 4 .plain
    (Request.mk <$> required "jsonrpc" 0 text <*> required "id" 1 RequestId.decode
      <*> required "method" 2 text <*> optional "params" 3 anything)

def Notification.decode : Json → Result Notification :=
  record "JsonRpcNotification" 3 .plain
    (Notification.mk <$> required "jsonrpc" 0 text <*> required "method" 1 text <*> optional "params" 2 anything)

def RpcError.decode : Json → Result RpcError :=
  record "JsonRpcError" 3 .plain
    (RpcError.mk <$> required "code" 0 (fun j => (integer "i32" Int32.minValue.toInt Int32.maxValue.toInt j).map Int32.ofInt)
      <*> required "message" 1 text <*> optional "data" 2 anything)

def Response.decode : Json → Result Response :=
  record "JsonRpcResponse" 4 .plain
    (Response.mk <$> required "jsonrpc" 0 text <*> optionalNamed "id" 1 RequestId.decode
      <*> optional "result" 2 anything <*> optional "error" 3 RpcError.decode)

inductive Incoming where
  | request (r : Request)
  | notification (n : Notification)
  | response (r : Response)

/-- The frame has a `method`, whatever its value. -/
def hasMethod (frame : Json) : Bool := (frame.get? "method").isSome

/-- The frame has an `id` other than null. -/
def hasId (frame : Json) : Bool := !(frame.get "id").isNull

def classify (frame : Json) : Result Incoming :=
  match hasMethod frame, hasId frame with
  | true, true => (Request.decode frame).map .request
  | true, false => (Notification.decode frame).map .notification
  | false, _ => (Response.decode frame).map .response

def Incoming.toJson : Incoming → Json
  | .request r => r.toJson
  | .notification n => n.toJson
  | .response r => r.toJson

end Colloquy.Rpc
