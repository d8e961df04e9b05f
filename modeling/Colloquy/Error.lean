import Colloquy.Completion.Basic

/-! Why a turn, a connection or the handling of the configuration failed. -/

namespace Colloquy

inductive Failure where
  | completion (e : CompletionError)
  | protocol (reason : String)
  /-- The model still asked for tools in the last permitted round. -/
  | roundLimit (rounds : Nat)
  | cancelled
  | config (reason : String)
  | system (reason : String)
deriving DecidableEq, Repr

def Failure.message : Failure → String
  | .completion e => s!"Completion error: {e.message}"
  | .protocol reason => s!"Tool protocol error: {reason}"
  | .roundLimit rounds => s!"Round limit exceeded: tools still requested after {rounds} completion rounds"
  | .cancelled => "Operation cancelled"
  | .config reason => s!"Configuration error: {reason}"
  | .system reason => s!"IO error: {reason}"

end Colloquy
