/-! Where a conversation is within a turn. -/

namespace Colloquy

inductive Phase where
  | awaitingInput
  | requesting (round : Nat)
  | executing (round calls : Nat)
  | answered
deriving DecidableEq, Repr

def Phase.text : Phase → String
  | .awaitingInput => "awaiting input"
  | .requesting round => s!"requesting completion (round {round})"
  | .executing round calls => s!"executing {calls} tool call(s) (round {round})"
  | .answered => "answered"

end Colloquy
