import Colloquy.Json.Numeral

/-! Reading JSON. The reader is a machine fed one character at a time: `Reader` holds the open
containers and what is expected next, `Reader.feed` takes one character, and `Reader.finish` gives
the value when the text has ended. Reading one text after another is therefore reading their
concatenation. -/

namespace Colloquy.Json

/-- Why a text is no JSON value. -/
inductive ReadFault where
  /-- The text ended inside a value, or before one. -/
  | endOfText
  /-- No continuation makes it JSON: a wrong character, a number out of range, nesting too deep. -/
  | malformed
deriving DecidableEq, Repr

/-- Most containers open at one time. -/
def depthLimit : Nat := 127

/-- An open container: what it holds so far, latest first, and for an object the key whose value
is being read. -/
inductive Frame where
  | arr (items : List Json)
  | obj (members : Members) (key : String)

/-- What a string is for. -/
inductive StringRole where
  | key
  | value
deriving DecidableEq, Repr

/-- What is being read. -/
inductive Expecting where
  | value
  /-- A value or the end of an array just opened. -/
  | firstItem
  /-- A key or the end of an object just opened. -/
  | firstKey
  | key
  | colon
  /-- A value has been read: a comma, the end of the container, or blanks. -/
  | after (done : Json)
  /-- Inside a string, with its characters so far, latest first. -/
  | text (role : StringRole) (soFar : List Char)
  | escape (role : StringRole) (soFar : List Char)
  /-- Inside the four digits of an escape; `high` is the first half of a surrogate pair. -/
  | hex (role : StringRole) (soFar : List Char) (high : Option Nat) (count value : Nat)
  /-- Inside the four bytes of an escape one of which is no digit, with the bytes still to come. -/
  | badHex (left : Nat)
  /-- After the first half of a surrogate pair, before the backslash of the second. -/
  | secondBackslash (role : StringRole) (soFar : List Char) (high : Nat)
  | secondMark (role : StringRole) (soFar : List Char) (high : Nat)
  | number (n : NumberSoFar)
  /-- Inside a word, with the characters still to come. -/
  | word (rest : List Char) (value : Json)

/-- The reader between two characters. -/
inductive Reader where
  | reading (stack : List Frame) (expecting : Expecting)
  | failed

namespace Reader

def start : Reader := .reading [] .value

def isBlank (c : Char) : Bool := c == ' ' || c == '\t' || c == '\n' || c == '\r'

def hexValue? (c : Char) : Option Nat :=
  if c.isDigit then some (c.toNat - 48)
  else if 'a' ≤ c && c ≤ 'f' then some (c.toNat - 87)
  else if 'A' ≤ c && c ≤ 'F' then some (c.toNat - 55)
  else none

def unescape? : Char → Option Char
  | '"' => some '"'
  | '\\' => some '\\'
  | '/' => some '/'
  | 'b' => some '\x08'
  | 'f' => some '\x0c'
  | 'n' => some '\n'
  | 'r' => some '\r'
  | 't' => some '\t'
  | _ => none

def openContainer (stack : List Frame) (frame : Frame) (expecting : Expecting) : Reader :=
  if stack.length < depthLimit then .reading (frame :: stack) expecting else .failed

/-- The first character of a value. -/
def feedValue (stack : List Frame) (c : Char) : Reader :=
  match c with
  | '[' => openContainer stack (.arr []) .firstItem
  | '{' => openContainer stack (.obj [] "") .firstKey
  | '"' => .reading stack (.text .value [])
  | 'n' => .reading stack (.word ['u', 'l', 'l'] .null)
  | 't' => .reading stack (.word ['r', 'u', 'e'] (.bool true))
  | 'f' => .reading stack (.word ['a', 'l', 's', 'e'] (.bool false))
  | c => match NumberSoFar.start? c with
    | some n => .reading stack (.number n)
    | none => .failed

/-- A character behind a value. -/
def feedAfter (stack : List Frame) (done : Json) (c : Char) : Reader :=
  if isBlank c then .reading stack (.after done) else
  match stack, c with
  | .arr items :: rest, ',' => .reading (.arr (done :: items) :: rest) .value
  | .arr items :: rest, ']' => .reading rest (.after (.arr (done :: items).reverse))
  | .obj members key :: rest, ',' => .reading (.obj (insert key done members) "" :: rest) .key
  | .obj members key :: rest, '}' => .reading rest (.after (.obj (insert key done members)))
  | _, _ => .failed

/-- The string is complete. -/
def closeText (stack : List Frame) (role : StringRole) (soFar : List Char) : Reader :=
  let s := String.ofList soFar.reverse
  match role, stack with
  | .value, stack => .reading stack (.after (.str s))
  | .key, .obj members _ :: rest => .reading (.obj members s :: rest) .colon
  | .key, _ => .failed

/-- The four digits of an escape are complete. -/
def closeHex (stack : List Frame) (role : StringRole) (soFar : List Char) (high : Option Nat) (unit : Nat) :
    Reader :=
  match high with
  | some h =>
    if 0xDC00 ≤ unit && unit < 0xE000 then
      .reading stack (.text role (Char.ofNat (0x10000 + (h - 0xD800) * 0x400 + (unit - 0xDC00)) :: soFar))
    else .failed
  | none =>
    if 0xD800 ≤ unit && unit < 0xDC00 then .reading stack (.secondBackslash role soFar unit)
    else if 0xDC00 ≤ unit && unit < 0xE000 then .failed
    else .reading stack (.text role (Char.ofNat unit :: soFar))

/-- A character of an escape that can no longer be read. The escape is judged when its four bytes
are there, so a text that ends earlier is one that ended too soon. -/
def badHex (stack : List Frame) (left : Nat) (c : Char) : Reader :=
  if c.utf8Size < left then .reading stack (.badHex (left - c.utf8Size)) else .failed

/-- Takes one character. -/
def feed (r : Reader) (c : Char) : Reader :=
  match r with
  | .failed => .failed
  | .reading stack expecting => match expecting with
    | .value => if isBlank c then r else feedValue stack c
    | .firstItem =>
      if isBlank c then r
      else if c == ']' then .reading stack.tail (.after (.arr []))
      else feedValue stack c
    | .firstKey =>
      if isBlank c then r
      else if c == '}' then .reading stack.tail (.after (.obj []))
      else if c == '"' then .reading stack (.text .key [])
      else .failed
    | .key =>
      if isBlank c then r
      else if c == '"' then .reading stack (.text .key [])
      else .failed
    | .colon =>
      if isBlank c then r
      else if c == ':' then .reading stack .value
      else .failed
    | .after done => feedAfter stack done c
    | .text role soFar =>
      if c == '"' then closeText stack role soFar
      else if c == '\\' then .reading stack (.escape role soFar)
      else if c.toNat < 32 then .failed
      else .reading stack (.text role (c :: soFar))
    | .escape role soFar =>
      if c == 'u' then .reading stack (.hex role soFar none 0 0)
      else match unescape? c with
        | some d => .reading stack (.text role (d :: soFar))
        | none => .failed
    | .hex role soFar high count value => match hexValue? c with
      | none => badHex stack (4 - count) c
      | some d =>
        let value := value * 16 + d
        if count < 3 then .reading stack (.hex role soFar high (count + 1) value)
        else closeHex stack role soFar high value
    | .badHex left => badHex stack left c
    | .secondBackslash role soFar high =>
      if c == '\\' then .reading stack (.secondMark role soFar high) else .failed
    | .secondMark role soFar high =>
      if c == 'u' then .reading stack (.hex role soFar (some high) 0 0) else .failed
    | .number n => match n.next? c with
      | some n => .reading stack (.number n)
      | none => match n.isComplete, n.value? with
        | true, some v => feedAfter stack (.num v) c
        | _, _ => .failed
    | .word rest value => match rest with
      | [d] => if c == d then .reading stack (.after value) else .failed
      | d :: rest => if c == d then .reading stack (.word rest value) else .failed
      | [] => .failed

/-- The value, when the text ends here. -/
def finish : Reader → Except ReadFault Json
  | .reading [] (.after done) => .ok done
  | .reading stack (.number n) =>
    match n.isComplete, n.value?, stack with
    | true, some v, [] => .ok (.num v)
    | true, some _, _ => .error .endOfText
    | true, none, _ => .error .malformed
    | false, _, _ => .error .endOfText
  | .reading _ _ => .error .endOfText
  | .failed => .error .malformed

end Reader

/-- Reads a text that holds one value and nothing else but blanks. -/
def read (s : String) : Except ReadFault Json := (s.foldl Reader.feed Reader.start).finish

end Colloquy.Json
