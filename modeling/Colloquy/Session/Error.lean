import Colloquy.Text.Duration

/-! Why a request over a session failed. -/

namespace Colloquy.Session

inductive SessionError where
  /-- The stream of frames failed or ended. -/
  | transport (reason : String)
  /-- The peer does not keep to the protocol. -/
  | protocol (reason : String)
  /-- The peer answered with an error. -/
  | server (code : Int32) (message : String)
  /-- No answer came within the limit, in milliseconds. -/
  | timeout (method : String) (limit : Nat)
deriving DecidableEq, Repr

def SessionError.message : SessionError → String
  | .transport reason => s!"Transport error: {reason}"
  | .protocol reason => s!"Protocol error: {reason}"
  | .server code message => s!"Server error ({code.toInt}): {message}"
  | .timeout method limit => s!"Request '{method}' timed out after {Text.durationText limit}"

/-- A frame was left half written. -/
def SessionError.interrupted : SessionError := .transport "Stream left mid-frame by an interrupted request"

def SessionError.connectionClosed : SessionError := .transport "Connection closed"

end Colloquy.Session
