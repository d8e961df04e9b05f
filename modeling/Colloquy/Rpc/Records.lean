import Colloquy.Rpc.Incoming
import Colloquy.Text.Blank
import Colloquy.Tool.Schema

/-! The records of the tool protocol: what a server tells about itself and its tools, and the results
of calls. -/

namespace Colloquy.Rpc

open Decode

/-- The protocol revision that both sides name. -/
def protocolVersion : String := "2024-11-05"

namespace Method

def handshake : String := "initialize"
def ready : String := "notifications/initialized"
def ping : String := "ping"
def toolsList : String := "tools/list"
def toolsCall : String := "tools/call"

end Method

structure ServerTool where
  name : String
  description : String
  inputSchema : Json

/-- The schema of a tool that names none. -/
def emptyObjectSchema : Json := .obj [("properties", .obj []), ("type", "object")]

def ServerTool.decode : Json → Result ServerTool :=
  record "McpTool" 3 .plain
    (ServerTool.mk <$> required "name" 0 text <*> defaulted "description" 1 text ""
      <*> defaulted "inputSchema" 2 anything emptyObjectSchema)

def ServerTool.toJson (t : ServerTool) : Json :=
  .obj [("name", t.name), ("description", t.description), ("inputSchema", t.inputSchema)]

def ServerTool.toSchema (t : ServerTool) : ToolSchema := ⟨t.name, t.description, t.inputSchema⟩

def ServerTool.ofSchema (t : ToolSchema) : ServerTool := ⟨t.name, t.description, t.parameters⟩

structure ToolsCapability where
  listChanged : Bool := false

structure Capabilities where
  tools : Option ToolsCapability := none

def ToolsCapability.decode : Json → Result ToolsCapability :=
  record "ToolsCapability" 1 .plain (ToolsCapability.mk <$> defaulted "listChanged" 0 boolean false)

def Capabilities.decode : Json → Result Capabilities :=
  record "ServerCapabilities" 1 .plain (Capabilities.mk <$> optionalNamed "tools" 0 ToolsCapability.decode)

def Capabilities.toJson (c : Capabilities) : Json :=
  .obj (member? "tools" (c.tools.map (fun t => .obj [("listChanged", .bool t.listChanged)])))

structure ServerInfo where
  name : String
  version : String

def ServerInfo.decode : Json → Result ServerInfo :=
  record "ServerInfoInner" 2 .plain (ServerInfo.mk <$> required "name" 0 text <*> defaulted "version" 1 text "")

/-- The answer to the handshake. -/
structure Welcome where
  protocolVersion : String
  capabilities : Capabilities
  server : ServerInfo

def Welcome.decode : Json → Result Welcome :=
  record "InitializeResult" 3 .plain
    (Welcome.mk <$> required "protocolVersion" 0 text <*> defaulted "capabilities" 1 Capabilities.decode {}
      <*> required "serverInfo" 2 ServerInfo.decode)

/-- One page of a server's tools. -/
structure ToolsPage where
  tools : List ServerTool
  nextCursor : Option String

def ToolsPage.decode : Json → Result ToolsPage :=
  record "ToolsListResult" 2 .plain
    (ToolsPage.mk <$> required "tools" 0 (list ServerTool.decode) <*> optional "nextCursor" 1 text)

/-- The cursor of the page that follows, if one does. -/
def ToolsPage.following? (p : ToolsPage) : Option String := p.nextCursor.bind Text.nonEmpty?

structure ContentItem where
  type : String
  text : Option String

def ContentItem.decode : Json → Result ContentItem :=
  record "ContentItem" 2 .plain (ContentItem.mk <$> required "type" 0 Decode.text <*> optional "text" 1 Decode.text)

def ContentItem.toJson (i : ContentItem) : Json := .obj (("type", .str i.type) :: member? "text" (i.text.map .str))

structure CallResult where
  content : List ContentItem
  isError : Bool

def CallResult.decode : Json → Result CallResult :=
  record "ToolCallResult" 2 .plain
    (CallResult.mk <$> defaulted "content" 0 (list ContentItem.decode) [] <*> defaulted "isError" 1 boolean false)

def CallResult.toJson (r : CallResult) : Json :=
  .obj [("content", .arr (r.content.map ContentItem.toJson)), ("isError", .bool r.isError)]

/-- The texts of all text items, joined by newlines. -/
def CallResult.text (r : CallResult) : String :=
  "\n".intercalate (r.content.filterMap (fun i => if i.type == "text" then i.text else none))

/-- A result with one text. -/
def CallResult.ofText (text : String) (isError : Bool) : CallResult := ⟨[⟨"text", some text⟩], isError⟩

end Colloquy.Rpc
