import Colloquy.Error

/-! The report with which the program ends on an error: what failed, and the chain of causes. -/

namespace Colloquy

/-- What a failure goes back to, nearest first. -/
def Failure.causes : Failure → List String
  | .completion e => [e.message]
  | .system reason => [reason]
  | .protocol _ | .roundLimit _ | .cancelled | .config _ => []

namespace Console

structure Report where
  message : String
  causes : List String := []

def Report.ofFailure (e : Failure) : Report := ⟨e.message, e.causes⟩

/-- A report of what could not be done because of a failure. -/
def Report.because (e : Failure) (message : String) : Report := ⟨message, e.message :: e.causes⟩

/-- A cause behind its margin; further lines of it stand below the first. -/
def causeText (margin : Nat) (label cause : String) : String :=
  label ++ ("\n" ++ String.ofList (List.replicate margin ' ')).intercalate (cause.splitOn "\n")

/-- The causes, numbered from zero if there are several. -/
def causeTexts : List String → List String
  | [] => []
  | [cause] => [causeText 4 "    " cause]
  | causes => causes.mapIdx fun i cause =>
    let number := toString i
    causeText 7 (String.ofList (List.replicate (5 - number.length) ' ') ++ number ++ ": ") cause

def Report.text (r : Report) : String :=
  let causes := if r.causes.isEmpty then "" else "\n\nCaused by:\n" ++ "\n".intercalate (causeTexts r.causes)
  "Error: " ++ r.message ++ causes ++ "\n"

end Console

end Colloquy
