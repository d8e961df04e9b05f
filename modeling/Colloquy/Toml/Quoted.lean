import Colloquy.Toml.Scalar

/-! Quoted text in TOML documents: with escapes between double quotes, as it stands between single
ones, and either way over several lines between three of them. -/

namespace Colloquy.Toml

/-- A control character other than a tab. -/
def isBarred (c : Char) : Bool := (c.toNat < 32 && c != '\t') || c.toNat == 127

/-- The character with a code point, unless it is a surrogate. -/
def scalarChar? (n : Nat) : Option Char := if n < 0xD800 || (0xDFFF < n && n < 0x110000) then some (Char.ofNat n) else none

def coded? (digits : Nat) (s : List Char) : Option (Char × List Char) :=
  let ds := s.take digits
  if ds.length = digits && ds.all isHexDigit then (scalarChar? (valueIn 16 ds)).map (·, s.drop digits) else none

/-- The character that an escape behind a backslash stands for. -/
def escape? : Scan Char
  | 'b' :: rest => some ('\x08', rest)
  | 't' :: rest => some ('\t', rest)
  | 'n' :: rest => some ('\n', rest)
  | 'f' :: rest => some ('\x0c', rest)
  | 'r' :: rest => some ('\r', rest)
  | 'e' :: rest => some ('\x1b', rest)
  | '"' :: rest => some ('"', rest)
  | '\\' :: rest => some ('\\', rest)
  | 'x' :: rest => coded? 2 rest
  | 'u' :: rest => coded? 4 rest
  | 'U' :: rest => coded? 8 rest
  | _ => none

def isGap (c : Char) : Bool := c == ' ' || c == '\t'

/-- The end of a line in front, and what follows it. -/
def afterLineEnd? : List Char → Option (List Char)
  | '\n' :: rest => some rest
  | '\r' :: '\n' :: rest => some rest
  | _ => none

/-- Blanks and line ends in front are passed over. -/
def skipLines : Nat → List Char → List Char
  | 0, s => s
  | fuel + 1, s =>
    let s := s.dropWhile isGap
    match afterLineEnd? s with
    | some rest => skipLines fuel rest
    | none => s

/-- The rest of a text in double quotes on one line; `soFar` is latest first. -/
def basic : Nat → List Char → Scan String
  | 0, _, _ => none
  | fuel + 1, soFar, s => match s with
    | '"' :: rest => some (String.ofList soFar.reverse, rest)
    | '\\' :: rest => do
      let (c, rest) ← escape? rest
      basic fuel (c :: soFar) rest
    | c :: rest => if isBarred c then none else basic fuel (c :: soFar) rest
    | [] => none

/-- The rest of a text in single quotes on one line. -/
def literal (s : List Char) : Option (String × List Char) :=
  let body := s.takeWhile (· != '\'')
  match s.drop body.length with
  | _ :: rest => if body.any isBarred then none else some (String.ofList body, rest)
  | [] => none

/-- How many quotes of a kind stand in front, five at most. -/
def quotesAhead (quote : Char) (s : List Char) : Nat := ((s.take 5).takeWhile (· == quote)).length

/-- The rest of a text between three quotes. Up to two quotes belong to it, also in front of the three
that end it. Line ends stay as they are; a backslash in front of one takes it away, and the blanks and
line ends after it. -/
def multiline (quote : Char) (escapes : Bool) : Nat → List Char → Scan String
  | 0, _, _ => none
  | fuel + 1, soFar, s => match s with
    | [] => none
    | c :: rest =>
      if c = quote then
        let n := quotesAhead quote s
        if n < 3 then multiline quote escapes fuel (c :: soFar) rest
        else some (String.ofList ((List.replicate (n - 3) quote ++ soFar).reverse), s.drop n)
      else if c = '\\' && escapes then
        match escape? rest with
        | some (e, rest) => multiline quote escapes fuel (e :: soFar) rest
        | none => match afterLineEnd? (rest.dropWhile isGap) with
          | some more => multiline quote escapes fuel soFar (skipLines more.length more)
          | none => none
      else match c, rest with
        | '\n', _ => multiline quote escapes fuel (c :: soFar) rest
        | '\r', '\n' :: rest => multiline quote escapes fuel ('\n' :: c :: soFar) rest
        | _, _ => if isBarred c then none else multiline quote escapes fuel (c :: soFar) rest

/-- The text without a line end at its front. -/
def withoutLineEnd (s : List Char) : List Char := (afterLineEnd? s).getD s

/-- Text in quotes of any kind. -/
def quotedText? : Scan String
  | '"' :: '"' :: '"' :: rest => multiline '"' true (rest.length + 1) [] (withoutLineEnd rest)
  | '\'' :: '\'' :: '\'' :: rest => multiline '\'' false (rest.length + 1) [] (withoutLineEnd rest)
  | '"' :: rest => basic (rest.length + 1) [] rest
  | '\'' :: rest => literal rest
  | _ => none

end Colloquy.Toml
