import Colloquy.Json.Printer
import Colloquy.Toml.Basic

/-! Writing TOML. Of the ways to quote a text the first is taken that needs no escapes, but for tabs,
which are escaped between double quotes; lists of two or more items have one item on a line. -/

namespace Colloquy.Toml

/-! ### Text -/

/-- What a text holds that stands against one way of quoting it or another. -/
structure Obstacles where
  backslash : Bool
  lineEnd : Bool
  /-- A control character other than a line end or a tab. -/
  control : Bool
  /-- The most double quotes in a row. -/
  doubleRun : Nat
  /-- The most single quotes in a row. -/
  singleRun : Nat

/-- The longest row of a character; `run` counts the row under way and `most` the longest before. -/
def longestRun (c : Char) (run most : Nat) : List Char → Nat
  | [] => max run most
  | d :: ds => if d = c then longestRun c (run + 1) most ds else longestRun c 0 (max run most) ds

def isControl (c : Char) : Bool := c.toNat < 32 || c.toNat == 127

def obstacles (s : List Char) : Obstacles where
  backslash := s.contains '\\'
  lineEnd := s.contains '\n'
  control := s.any (fun c => isControl c && c != '\n' && c != '\t')
  doubleRun := longestRun '"' 0 0 s
  singleRun := longestRun '\'' 0 0 s

def shortEscape? : Char → Option Char
  | '\x08' => some 'b'
  | '\t' => some 't'
  | '\n' => some 'n'
  | '\x0c' => some 'f'
  | '\r' => some 'r'
  | '\\' => some '\\'
  | _ => none

def upperHex (n : Nat) : Char := if n < 10 then Char.ofNat (48 + n) else Char.ofNat (55 + n)

/-- A character between double quotes that is no quote. -/
def escapedChar (c : Char) : List Char :=
  match shortEscape? c with
  | some letter => ['\\', letter]
  | none => if isControl c then ['\\', 'u', '0', '0', upperHex (c.toNat / 16), upperHex (c.toNat % 16)] else [c]

/-- Text between double quotes. Line ends may stand for themselves, and so may rows of quotes up to a
length; `row` counts the quotes just written. -/
def escaped (keepLines : Bool) (quotes row : Nat) : List Char → List Char
  | [] => []
  | '"' :: rest =>
    if row < quotes then '"' :: escaped keepLines quotes (row + 1) rest
    else '\\' :: '"' :: escaped keepLines quotes 0 rest
  | c :: rest =>
    (if keepLines && c == '\n' then [c] else escapedChar c) ++ escaped keepLines quotes 0 rest

def tripled (c : Char) : List Char := [c, c, c]

/-- Text between three quotes; a text with line ends starts on a line of its own. -/
def betweenTriples (quote : Char) (s body : List Char) : List Char :=
  tripled quote ++ (if s.contains '\n' then ['\n'] else []) ++ body ++ tripled quote

def textOf (s : List Char) : List Char :=
  let o := obstacles s
  if !o.backslash && o.doubleRun == 0 && !o.lineEnd && !o.control then '"' :: escaped false 0 0 s ++ ['"']
  else if o.singleRun == 0 && !o.lineEnd && !o.control then '\'' :: s ++ ['\'']
  else if !o.backslash && !o.control && o.doubleRun < 3 then betweenTriples '"' s (escaped true 2 0 s)
  else if !o.control && o.singleRun < 3 then betweenTriples '\'' s s
  else if o.lineEnd then betweenTriples '"' s (escaped true 2 0 s)
  else '"' :: escaped false 0 0 s ++ ['"']

/-- A key, bare where it can be and on one line where not. -/
def keyText (s : List Char) : List Char :=
  let o := obstacles s
  if !s.isEmpty && s.all (fun c => c.isAlphanum || c == '_' || c == '-') then s
  else if (o.backslash || o.doubleRun != 0) && o.singleRun == 0 && !o.lineEnd && !o.control then '\'' :: s ++ ['\'']
  else '"' :: escaped false 0 0 s ++ ['"']

/-! ### Sections -/

/-- What sections of entries hold. -/
inductive Item where
  | text (s : String)
  | natural (n : Nat)
  | boolean (b : Bool)
  | texts (ss : List String)

def itemText : Item → List Char
  | .text s => textOf s.toList
  | .natural n => Decimal.natText n
  | .boolean b => (if b then "true" else "false").toList
  | .texts [] => ['[', ']']
  | .texts [s] => '[' :: textOf s.toList ++ [']']
  | .texts ss => '[' :: '\n' :: ss.flatMap (fun s => "    ".toList ++ textOf s.toList ++ [',', '\n']) ++ [']']

/-- A header and the entries under it. -/
structure Section where
  path : List String
  entries : List (String × Item)

def entryText (e : String × Item) : List Char := keyText e.1.toList ++ " = ".toList ++ itemText e.2 ++ ['\n']

def sectionText (s : Section) : List Char :=
  '[' :: ['.'].intercalate (s.path.map (fun k => keyText k.toList)) ++ [']', '\n'] ++ s.entries.flatMap entryText

/-- Sections with a blank line between them. -/
def documentText (sections : List Section) : String := String.ofList (['\n'].intercalate (sections.map sectionText))

end Colloquy.Toml
