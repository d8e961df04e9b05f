import Colloquy.Http.Fetch

/-! A web of prepared answers. Requests that a server saw are noted. -/

namespace Colloquy.Rehearsal

structure Route where
  url : String
  /-- Nothing: the connection is closed without an answer. -/
  reply : Option Http.Reply

/-- The requests seen so far, oldest first. -/
abbrev WebM := StateM (List Http.Request)

def notFound : Http.Reply := ⟨404, []⟩

/-- The first route of an address answers. -/
def fetchFrom (routes : List Route) : Http.Fetch WebM where
  toAscii := Http.asciiOnly
  send r := do
    modify (· ++ [r])
    return match routes.find? (fun route => route.url == r.url.text) with
      | some route => route.reply.elim (.error .dropped) .ok
      | none => .ok notFound

def requestJson (r : Http.Request) : Json :=
  .obj [("method", "GET"), ("url", r.url.text), ("accept", r.accept), ("user_agent", .ofText? r.userAgent)]

end Colloquy.Rehearsal
