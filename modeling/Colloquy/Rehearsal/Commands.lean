import Colloquy.Console.Program
import Colloquy.Rehearsal.Disk
import Colloquy.Rehearsal.Play
import Colloquy.Rehearsal.Script
import Colloquy.Rehearsal.Services
import Colloquy.Server.Weather

/-! Programs that can be started in a rehearsal as tool servers, and the outside of a run of the
console in which they are. Nothing there reaches a network. -/

namespace Colloquy.Rehearsal

open Console

/-- The weather server as a peer. -/
def Peer.weather : Peer :=
  { answers := served (Server.weatherHandler Http.unreachable) Server.weatherIdentity, hangsWhenEmpty := true }

/-- A peer that says everything back. -/
def Peer.echo : Peer := { answers := fun frame => [frame], hangsWhenEmpty := true }

/-- Where programs are started: a disk, the place of the weather server on it, the environment, and the
home directory of the account. -/
structure Surroundings where
  disk : Disk
  weather : List String
  environment : Environment := []
  account : Option String := none

/-- The peer that a program is, if it is run with some arguments. A program of which nothing else is known
ends at once. -/
def Surroundings.peer (s : Surroundings) (place : List String) (c : ServerConfig) : Peer :=
  if place = s.weather then .weather
  else match place.getLast?.getD "", c.args with
    | "cat", [] => .echo
    | "sh", "-c" :: script :: _ | "bash", "-c" :: script :: _ | "dash", "-c" :: script :: _ =>
      .ofScript (c.env ++ s.environment) script
    | _, _ => .ofScript [] ""

/-- A character of which no argument is made and no variable. -/
def holdsNul (s : String) : Bool := s.contains '\x00'

/-- The program of a tool server. It is searched for where the server's own environment says. -/
def Surroundings.program (s : Surroundings) (c : ServerConfig) : Except String (List String) :=
  if holdsNul c.command || c.args.any holdsNul || c.env.any (fun e => holdsNul e.1 || holdsNul e.2) then
    .error "nul byte found in provided data"
  else
    let searched := (((c.env ++ s.environment).lookup "PATH").getD usualSearch).splitOn ":"
    (s.disk.program searched c.command).mapError DiskFault.message

/-- Starts a tool server and connects to it. -/
def startServer (s : Surroundings) (c : ServerConfig) (limit : Nat) : Except Failure ToolboxBench :=
  match s.program c with
  | .error reason => .error (.system reason)
  | .ok place => (connect (s.peer place c) limit).outcome

/-- The tools of a server on the bench. -/
def serverTooling (b : ToolboxBench) : Tooling where
  State := ToolboxBench
  state := b
  schemas := b.node.schemas
  server := some b.node.serverName
  invoke calls b :=
    let ((outcomes, _), b) := serverCrew.invoke calls b.now none b
    (outcomes.getD (Vector.replicate calls.length (.error .cancelled)), b)

/-- The outside of a run: what surrounds it, and the completion service. -/
def outside (s : Surroundings) (logMade : Bool) (service : Bool → ChatService ServiceM) : Outside (List ChatRequest) where
  environment := s.environment
  account := s.account
  logMade
  found := s.disk.found
  service
  serviceState := []
  builtin limit := .ofLocal { Server.weatherTools Http.unreachable with limit }
  start c limit := (startServer s c limit).map serverTooling

/-- A run in some surroundings, and the disk that it leaves. -/
def runIn (s : Surroundings) (service : Bool → ChatService ServiceM) (args : List String) (lines : List InputLine) :
    Finished (List ChatRequest) × Disk :=
  let (logMade, disk) := (LogPlace.ofArgs? args).elim (true, s.disk) s.disk.openLog
  ((outside { s with disk } logMade service).run args lines, disk)

end Colloquy.Rehearsal
