import Colloquy.Console.Options

/-! Where the log file of a run lies. The last name in its path is the file's, and what stands in front
of it leads to the directory. -/

namespace Colloquy.Console

structure LogPlace where
  /-- The path starts at the root. -/
  absolute : Bool
  /-- The names that lead to the directory. -/
  directories : List String
  name : String
deriving DecidableEq, Repr

/-- The names along a path, without those that lead nowhere else. -/
def pathParts (path : String) : List String := (path.splitOn "/").filter (fun part => part != "" && part != ".")

/-- A path along some names. -/
def pathOf (absolute : Bool) (parts : List String) : String :=
  match absolute, parts with
  | true, parts => "/" ++ "/".intercalate parts
  | false, [] => "."
  | false, parts => "/".intercalate parts

namespace LogPlace

def directory (p : LogPlace) : String := pathOf p.absolute p.directories

/-- The place at the end of a path, unless the path ends without a name. -/
def ofPath? (path : String) : Option LogPlace :=
  match (pathParts path).reverse with
  | [] | ".." :: _ => none
  | name :: above => some ⟨path.startsWith "/", above.reverse, name⟩

/-- The place that a command line asks for, if it asks for a run with a log file. -/
def ofArgs? (args : List String) : Option LogPlace :=
  match Invocation.ofArgs args with
  | .run o => o.logFile.bind ofPath?
  | _ => none

end LogPlace

end Colloquy.Console
