import Colloquy.Config.File
import Colloquy.Console.LogFile

/-! A disk for rehearsals: directories, files and programs at places below a root, and what becomes of
paths there. A path is followed name by name, and every name but the last has to be that of a
directory; so has the last if a slash, one dot or two come behind it. -/

namespace Colloquy.Rehearsal

open Console

inductive Node where
  | directory
  | file (content : Text.Bytes)
  /-- A file that can be run. -/
  | program

structure Disk where
  /-- What there is, by the names that lead to it from the root. -/
  nodes : List (List String × Node)
  /-- Where paths start that do not start at the root. -/
  working : List String

/-- Why something cannot be done on a disk. -/
inductive DiskFault where
  | missing
  | denied
  | present
  | notDirectory
  | isDirectory
  | nameTooLong
deriving DecidableEq, Repr

def DiskFault.message : DiskFault → String
  | .missing => "No such file or directory (os error 2)"
  | .denied => "Permission denied (os error 13)"
  | .present => "File exists (os error 17)"
  | .notDirectory => "Not a directory (os error 20)"
  | .isDirectory => "Is a directory (os error 21)"
  | .nameTooLong => "File name too long (os error 36)"

/-- A name has at most 255 bytes. -/
def isTooLong (name : String) : Bool := 255 < name.utf8ByteSize

namespace Disk

def node? (d : Disk) (place : List String) : Option Node :=
  if place.isEmpty then some .directory else d.nodes.lookup place

def put (d : Disk) (place : List String) (node : Node) : Disk := { d with nodes := (place, node) :: d.nodes }

/-! ### Paths -/

/-- Follows names from a place. -/
def follow (d : Disk) (place : List String) : List String → Except DiskFault (List String)
  | [] => .ok place
  | name :: rest => match d.node? place with
    | some .directory =>
      if name = "" || name = "." then d.follow place rest
      else if name = ".." then d.follow place.dropLast rest
      else if isTooLong name then .error .nameTooLong
      else if (d.node? (place ++ [name])).isSome then d.follow (place ++ [name]) rest
      else .error .missing
    | _ => .error .notDirectory

/-- The place that a path leads to, and what is there. A path has at most 4095 bytes. -/
def find (d : Disk) (path : String) : Except DiskFault (List String × Node) :=
  if path = "" then .error .missing
  else if 4095 < path.utf8ByteSize then .error .nameTooLong
  else do
    let place ← d.follow (if path.startsWith "/" then [] else d.working) (path.splitOn "/")
    match d.node? place with
    | some node => .ok (place, node)
    | none => .error .missing

/-- What a reader finds at a path. A program is no text. -/
def found (d : Disk) (path : String) : FileFound :=
  match d.find path with
  | .ok (_, .directory) => .directory
  | .ok (_, .file content) => .bytes content
  | .ok (_, .program) => .bytes [0x7F, 0x45, 0x4C, 0x46, 0xFF]
  | .error _ => .nothing

def isDirectory (d : Disk) (path : String) : Bool :=
  match d.find path with
  | .ok (_, .directory) => true
  | _ => false

/-! ### Making files and directories -/

/-- The place of a name in a directory. -/
def placeIn (d : Disk) (directory name : String) : Except DiskFault (List String) := do
  match ← d.find directory with
  | (place, .directory) => if isTooLong name then .error .nameTooLong else .ok (place ++ [name])
  | _ => .error .notDirectory

def makeDirectory (d : Disk) (directory name : String) : Except DiskFault Disk := do
  let place ← d.placeIn directory name
  if name = ".." || (d.node? place).isSome then .error .present else .ok (d.put place .directory)

/-- Makes a directory and those above it that are missing; the names that lead to it come last first.
Those that were made stay, also if it ends without success. -/
def makeDirectories (absolute : Bool) : List String → Disk → Bool × Disk
  | [], d => (true, d)
  | name :: above, d =>
    let make (d : Disk) := d.makeDirectory (pathOf absolute above.reverse) name
    let isThere (d : Disk) := d.isDirectory (pathOf absolute (name :: above).reverse)
    match make d with
    | .ok d => (true, d)
    | .error .missing => match makeDirectories absolute above d with
      | (true, d) => match make d with
        | .ok d => (true, d)
        | .error _ => (isThere d, d)
      | (false, d) => (false, d)
    | .error _ => (isThere d, d)

/-- Opens a file to write at its end. -/
def append (d : Disk) (p : LogPlace) : Except DiskFault Disk := do
  let place ← d.placeIn p.directory p.name
  match d.node? place with
  | some .directory => .error .isDirectory
  | some _ => .ok d
  | none => .ok (d.put place (.file []))

/-- Opens a log file, if need be after its directory has been made. -/
def openLog (d : Disk) (p : LogPlace) : Bool × Disk :=
  match d.append p with
  | .ok d => (true, d)
  | .error _ => match makeDirectories p.absolute p.directories.reverse d with
    | (true, d) => match d.append p with
      | .ok d => (true, d)
      | .error _ => (false, d)
    | (false, d) => (false, d)

/-! ### Programs -/

/-- The place of the program at a path. -/
def programAt (d : Disk) (path : String) : Except DiskFault (List String) := do
  match ← d.find path with
  | (place, .program) => .ok place
  | _ => .error .denied

/-- Looks for a program in one directory after another. One that cannot be run is remembered. -/
def search (d : Disk) (command : String) (fault : DiskFault) : List String → Except DiskFault (List String)
  | [] => .error fault
  | directory :: rest => match d.programAt (if directory = "" then command else pathBelow directory command) with
    | .ok place => .ok place
    | .error f => d.search command (if fault = .denied then .denied else f) rest

/-- The program that a command names, by a path or by a name that is searched for. -/
def program (d : Disk) (searched : List String) (command : String) : Except DiskFault (List String) :=
  if command.contains '/' then d.programAt command
  else if command = "" then .error .missing
  else if isTooLong command then .error .nameTooLong
  else d.search command .missing searched

end Disk

/-! ### A disk to start from -/

/-- Directories that are always there. -/
def usualDirectories : List (List String) :=
  [["bin"], ["boot"], ["dev"], ["dev", "shm"], ["etc"], ["home"], ["lib"], ["lib64"], ["media"], ["mnt"], ["opt"], ["proc"],
    ["root"], ["run"], ["sbin"], ["srv"], ["sys"], ["tmp"], ["usr"], ["usr", "bin"], ["usr", "include"], ["usr", "lib"],
    ["usr", "local"], ["usr", "local", "bin"], ["usr", "local", "lib"], ["usr", "local", "sbin"], ["usr", "sbin"],
    ["usr", "share"], ["usr", "src"], ["var"], ["var", "lib"], ["var", "log"], ["var", "tmp"], ["work"]]

/-- Files that are always there and hold no configuration. -/
def usualFiles : List (List String) :=
  [["etc", "passwd"], ["etc", "group"], ["etc", "hosts"], ["etc", "hostname"], ["etc", "shadow"], ["etc", "fstab"]]

def usualPrograms : List String := ["sh", "bash", "dash", "cat", "true", "false", "echo", "ls", "env", "sleep"]

/-- A disk with what is always there, and with further files and the directories above them. -/
def Disk.usual (nodes : List (List String × Node)) : Disk where
  nodes := nodes ++ usualDirectories.map (·, .directory) ++
    usualFiles.map (·, .file (Text.utf8Bytes "root:x:0:0:root:/root:/bin/sh\n")) ++ [(["dev", "null"], .file [])] ++
    [["bin"], ["usr", "bin"]].flatMap (fun directory => usualPrograms.map (fun name => (directory ++ [name], .program)))
  working := ["work"]

/-- Where programs are searched for unless the environment says otherwise. -/
def usualSearch : String := "/usr/local/sbin:/usr/local/bin:/usr/sbin:/usr/bin:/sbin:/bin"

end Colloquy.Rehearsal
