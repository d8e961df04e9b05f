import Colloquy.Completion.Provider

/-! Completion services with prepared streams. Requests that a service saw are noted. -/

namespace Colloquy.Rehearsal

/-- The requests seen so far, oldest first. -/
abbrev ServiceM := StateM (List ChatRequest)

/-- Answers every request with the same stream. -/
def serviceOf (events : List StreamEvent) : ChatService ServiceM := fun r => do
  modify (· ++ [r])
  return .ok events

end Colloquy.Rehearsal
