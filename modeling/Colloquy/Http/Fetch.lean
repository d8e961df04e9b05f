import Colloquy.Http.Url
import Colloquy.Json.Reader
import Colloquy.Text.Utf8

/-! Fetching documents. What is written here holds of every web: a `Fetch` says how hosts are spelled in
ASCII, and of each request what came back, or why nothing did. -/

namespace Colloquy.Http

structure Request where
  url : Url
  accept : String := "*/*"
  userAgent : Option String := none
deriving DecidableEq, Repr

structure Reply where
  status : Nat
  body : Text.Bytes

/-- Why a request got no reply. -/
inductive NoReply where
  /-- There was no connection, or it was given up. -/
  | dropped
  | timedOut
deriving DecidableEq, Repr

/-- How addresses are read, and requests for them answered. -/
structure Fetch (m : Type → Type) where
  toAscii : ToAscii
  send : Request → m (Except NoReply Reply)

/-- No request gets out. -/
def unreachable {m : Type → Type} [Monad m] : Fetch m where
  toAscii := asciiOnly
  send _ := pure (.error .dropped)

namespace Reply

def isSuccess (r : Reply) : Bool := 200 ≤ r.status && r.status < 300

/-- The status reports a fault, of the request or of the server. -/
def isFault (r : Reply) : Bool := 400 ≤ r.status && r.status < 600

/-- The body as a JSON document. -/
def json? (r : Reply) : Option Json :=
  match Text.utf8Text r.body with
  | .ok text => (Json.read text).toOption
  | .error _ => none

end Reply

end Colloquy.Http
