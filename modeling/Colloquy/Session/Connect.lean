import Colloquy.Session.Toolbox
import Colloquy.Error

/-! Connecting to a tool server: the handshake, then the pages of tools. When either fails the
transport is closed, and the failure is the one that came first. -/

namespace Colloquy.Session

/-- How far a connection has come. -/
inductive Stage where
  | greeting
  | listing (server : Rpc.ServerInfo)
  /-- Closing the transport after a failure. -/
  | closing (e : SessionError)
  | connected (server : Rpc.ServerInfo) (schemas : List ToolSchema)
  | failed (e : Failure)

structure Connection where
  client : Client
  stage : Stage := .greeting

namespace Connection

/-- The one caller of a connection. -/
def ticket : Nat := 0

/-- The name and version under which the client introduces itself. -/
def clientName : String := "parley"
def clientVersion : String := "0.1.0"

abbrev Step := Connection × List (Effect Unit)

/-- What follows an answer: the next stage, and what is asked of the client there. -/
def follow (stage : Stage) (result : AnswerResult) : Stage × Option Wish :=
  match stage, result with
  | .greeting, .ok (.server info) => (.listing info, some .listTools)
  | .listing server, .ok (.tools found) => (.connected server (found.map Rpc.ServerTool.toSchema), none)
  | .greeting, .error e | .listing _, .error e => (.closing e, some .close)
  | .closing e, _ => (.failed (.protocol e.message), none)
  | stage, _ => (stage, none)

/-- Passes effects of the client on; an answer moves the stage on and may call for a wish. -/
def relay (stage : Stage) : List (Effect AnswerResult) → List (Effect Unit) × Stage × Option Wish
  | [] => ([], stage, none)
  | e :: es =>
    let pass (effect : Effect Unit) :=
      let (effects, rest) := relay stage es
      (effect :: effects, rest)
    match e with
    | .hold t => pass (.hold t)
    | .send frame => pass (.send frame)
    | .receive => pass .receive
    | .close => pass .close
    | .abandon => pass .abandon
    | .arm t request => pass (.arm t request)
    | .accept t id value => pass (.accept t id value)
    | .answer t result => match follow stage result with
      | (stage, none) =>
        let (effects, rest) := relay stage es
        (.answer t () :: effects, rest)
      | (stage, some wish) =>
        let (effects, stage, more) := relay stage es
        (effects, stage, more.or (some wish))

/-- Works through effects of the client and those of the wishes that follow; `depth` bounds how
many wishes follow on another at once. -/
def advance : Nat → Connection → List (Effect AnswerResult) → Step
  | 0, c, _ => (c, [])
  | depth + 1, c, es => match relay c.stage es with
    | (effects, stage, none) => ({ c with stage }, effects)
    | (effects, stage, some wish) =>
      let (client, asked) := c.client.step (.ask ticket wish)
      let (c, more) := advance depth ⟨client, stage⟩ asked
      (c, effects ++ more)

/-- Two wishes follow the first at most: the listing, and closing after a failure. -/
def depth : Nat := 4

def step (c : Connection) (e : Event) : Step :=
  let (client, effects) := c.client.step e
  advance depth { c with client } effects

/-- Starts connecting with a limit for each request. -/
def start (limit : Nat) : Step :=
  Connection.step { client := { limit } } (.ask ticket (.handshake clientName clientVersion))

/-- The toolbox of a connection that is complete. -/
def toolbox? (c : Connection) : Option Toolbox :=
  match c.stage with
  | .connected server schemas => some { client := c.client, serverName := server.name, schemas }
  | _ => none

end Connection

end Colloquy.Session
