import Colloquy.Config.File

/-! An open configuration and the place it is kept at. Opening reads the file, saving writes it, and
reopening the place of a saved configuration reads what was written. -/

namespace Colloquy.Config

/-- The place of a configuration file. -/
structure Place where
  found : FileFound := .nothing
  /-- A file stands where the directory of the configuration would be. -/
  blocked : Bool := false

structure Store where
  place : Place
  config : Config

namespace Store

def openAt (place : Place) : Except Failure Store := (load place.found).map (fun config => ⟨place, config⟩)

/-- Reads the file anew, forgetting what was not saved. -/
def reload (s : Store) : Except Failure Store := openAt s.place

def update (s : Store) (change : Config → Config) : Store := { s with config := change s.config }

/-- Writes the configuration to its place, making its directory first. -/
def save (s : Store) : Except Failure Store :=
  if s.place.blocked then .error (.config "Failed to create config dir: File exists (os error 17)")
  else match s.place.found with
    | .directory => .error (.config "Failed to write config: Is a directory (os error 21)")
    | _ => .ok { s with place := { s.place with found := .bytes (Text.utf8Bytes (fileText s.config)) } }

end Store

end Colloquy.Config
