import Colloquy.Http.Host

/-! Web addresses. `Url.read` takes the text of an absolute address of scheme `http` or `https` apart,
as the URL standard lays down: slashes lean either way, dot segments are settled, and characters that
have no place in a part are percent-encoded there. -/

namespace Colloquy.Http

/-- Who asks: a name and perhaps a password, percent-encoded. -/
structure Credentials where
  name : String
  password : Option String
deriving DecidableEq, Repr

structure Url where
  scheme : String
  host : String
  /-- The port, unless it is the scheme's own. -/
  port : Option Nat
  /-- Segments of the path, percent-encoded. -/
  path : List String
  query : Option String
  fragment : Option String
  credentials : Option Credentials := none
deriving DecidableEq, Repr

/-! ### Percent-encoding -/

def upperHexDigit (n : Nat) : Char := if n < 10 then Char.ofNat (48 + n) else Char.ofNat (55 + n)

/-- A byte as a percent sign and two hexadecimal digits. -/
def percentByte (b : UInt8) : List Char := ['%', upperHexDigit (b.toNat / 16), upperHexDigit (b.toNat % 16)]

def percentChar (c : Char) : List Char := (String.utf8EncodeChar c).flatMap percentByte

/-- Encodes the characters of a class; the others stand for themselves. -/
def percentEncoded (mustEscape : Char → Bool) (s : List Char) : List Char :=
  s.flatMap (fun c => if mustEscape c then percentChar c else [c])

/-- Controls, and everything beyond ASCII. -/
def isControl (c : Char) : Bool := c.toNat < 32 || 126 < c.toNat

def inFragment (c : Char) : Bool := isControl c || [' ', '"', '<', '>', '`'].contains c

def inQuery (c : Char) : Bool := isControl c || [' ', '"', '#', '<', '>', '\''].contains c

def inPath (c : Char) : Bool := isControl c || [' ', '"', '#', '<', '>', '?', '`', '{', '}'].contains c

def inCredentials (c : Char) : Bool := inPath c || ['/', ':', ';', '=', '@', '[', '\\', ']', '^', '|'].contains c

/-- The characters that stand for themselves in a form. -/
def isPlainInForm (c : Char) : Bool := c.isAlphanum || ['*', '-', '.', '_'].contains c

/-- A name or value in a form: a space is a plus sign. -/
def formEncoded (s : List Char) : List Char :=
  s.flatMap (fun c => if c = ' ' then ['+'] else if isPlainInForm c then [c] else percentChar c)

/-! ### Paths -/

def isSlash (c : Char) : Bool := c == '/' || c == '\\'

/-- Cuts at every slash; there is always a last piece. -/
def cutAtSlashes : List Char → List (List Char)
  | [] => [[]]
  | c :: cs =>
    if isSlash c then [] :: cutAtSlashes cs
    else match cutAtSlashes cs with
      | [] => [[c]]
      | piece :: pieces => (c :: piece) :: pieces

/-- The number of dots that a segment consists of, where it has one or two; an encoded dot counts. -/
def dots? (segment : List Char) : Option Nat :=
  match segment.map Char.toLower with
  | ['.'] | ['%', '2', 'e'] => some 1
  | ['.', '.'] | ['.', '%', '2', 'e'] | ['%', '2', 'e', '.'] | ['%', '2', 'e', '%', '2', 'e'] => some 2
  | _ => none

/-- Goes down a path; `above` holds the segments so far, latest first. One dot stays, two go up, and
at the end of a path both leave an empty segment. -/
def walk : List (List Char) → List (List Char) → List (List Char)
  | above, [] => above.reverse
  | above, [last] => match dots? last with
    | some 1 => ([] :: above).reverse
    | some _ => ([] :: above.tail).reverse
    | none => (last :: above).reverse
  | above, segment :: rest => match dots? segment with
    | some 1 => walk above rest
    | some _ => walk above.tail rest
    | none => walk (segment :: above) rest

/-- The segments of a path that is given with the slash in front of it. -/
def pathSegments (path : List Char) : List String :=
  (walk [] (cutAtSlashes (percentEncoded inPath (path.drop 1)))).map String.ofList

/-! ### Hosts and ports -/

def ownPort (scheme : String) : Nat := if scheme = "http" then 80 else 443

/-- The port behind a host. -/
def port? (scheme : String) : List Char → Option (Option Nat)
  | [] => some none
  | ':' :: [] => some none
  | ':' :: digits =>
    if digits.all Char.isDigit then
      let n := digits.foldl (fun n d => 10 * n + (d.toNat - 48)) 0
      if 65535 < n then none else some (if n = ownPort scheme then none else some n)
    else none
  | _ => none

/-- Host and port out of the part between the slashes; credentials in front are no part of them. -/
def hostAndPort? (toAscii : ToAscii) (scheme : String) (authority : List Char) : Option (String × Option Nat) := do
  let place := (authority.reverse.takeWhile (· ≠ '@')).reverse
  let (host, rest) ← match place with
    | '[' :: more => match more.span (· ≠ ']') with
      | (_, []) => none
      | (inside, _ :: rest) => (bracketed? inside).map (·, rest)
    | _ =>
      let name := place.takeWhile (· ≠ ':')
      (hostName? toAscii name).map (·, place.drop name.length)
  let port ← port? scheme rest
  some (String.ofList host, port)

/-! ### Addresses -/

/-- Cuts in front of the first character of a class. -/
def cutAt (stops : Char → Bool) (s : List Char) : List Char × List Char :=
  (s.takeWhile (fun c => !stops c), s.dropWhile (fun c => !stops c))

def isEdge (c : Char) : Bool := c.toNat ≤ 32

/-- The text without controls and spaces at its ends, and without tabs and line ends. -/
def tidied (s : List Char) : List Char :=
  ((s.dropWhile isEdge).reverse.dropWhile isEdge).reverse.filter (fun c => !(c == '\t' || c == '\n' || c == '\r'))

/-- What stands behind a mark such as `?`. -/
def behindMark (s : List Char) (mustEscape : Char → Bool) : Option String :=
  match s with
  | [] => none
  | _ :: rest => some (String.ofList (percentEncoded mustEscape rest))

/-- The credentials in front of a host. A password that is empty is none, and without a name either nothing is left. -/
def credentials? (authority : List Char) : Option Credentials :=
  match authority.reverse.dropWhile (· ≠ '@') with
  | [] => none
  | _ :: front =>
    let (name, rest) := cutAt (· == ':') front.reverse
    let password := (behindMark rest inCredentials).filter (· ≠ "")
    if name.isEmpty && password.isNone then none
    else some ⟨String.ofList (percentEncoded inCredentials name), password⟩

def Url.read (toAscii : ToAscii) (text : String) : Option Url := do
  let s := tidied text.toList
  let (scheme, rest) := cutAt (· == ':') s
  let scheme := String.ofList (scheme.map Char.toLower)
  guard (scheme = "http" || scheme = "https")
  let rest := (rest.drop 1).dropWhile isSlash
  let (authority, rest) := cutAt (fun c => isSlash c || c == '?' || c == '#') rest
  let (host, port) ← hostAndPort? toAscii scheme authority
  let (path, rest) := cutAt (fun c => c == '?' || c == '#') rest
  let (query, fragment) := cutAt (· == '#') rest
  some { scheme, host, port, path := pathSegments path, query := behindMark query inQuery,
         fragment := behindMark fragment inFragment, credentials := credentials? authority }

/-- The pairs of a form. -/
def formText (pairs : List (String × String)) : List Char :=
  ['&'].intercalate (pairs.map (fun p => formEncoded p.1.toList ++ '=' :: formEncoded p.2.toList))

/-- The address with a form for its query. -/
def Url.withForm (u : Url) (pairs : List (String × String)) : Url :=
  { u with query := some (String.ofList (formText pairs)) }

/-- The address as a server sees it. Credentials are no part of it; they go with the request. -/
def Url.text (u : Url) : String :=
  u.scheme ++ "://" ++ u.host ++ u.port.elim "" (fun p => s!":{p}") ++ String.join (u.path.map ("/" ++ ·)) ++
    u.query.elim "" ("?" ++ ·)

/-- The whole address. -/
def Url.display (u : Url) : String := u.text ++ u.fragment.elim "" ("#" ++ ·)

end Colloquy.Http
