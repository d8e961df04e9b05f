import Colloquy.Decimal.Layout
import Colloquy.Text.Utf8

/-! Hosts of web addresses: names, and numeric addresses of four bytes or of eight groups. Each is
written in one form only, whatever form it was given in. How a name in another script is spelled in
ASCII is given. -/

namespace Colloquy.Http

def hexNibble? (c : Char) : Option Nat :=
  if '0' ≤ c && c ≤ '9' then some (c.toNat - 48)
  else if 'a' ≤ c && c ≤ 'f' then some (c.toNat - 87)
  else if 'A' ≤ c && c ≤ 'F' then some (c.toNat - 55)
  else none

def numberIn? (base : Nat) (ds : List Char) : Option Nat :=
  ds.foldlM (fun n c => (hexNibble? c).bind (fun d => if d < base then some (n * base + d) else none)) 0

/-! ### Four bytes -/

/-- A number of an address: in base 16 behind `0x`, in base 8 behind another zero, else in base 10. -/
def addressNumber? : List Char → Option Nat
  | [] => none
  | '0' :: 'x' :: ds => numberIn? 16 ds
  | '0' :: 'X' :: ds => numberIn? 16 ds
  | '0' :: d :: ds => numberIn? 8 (d :: ds)
  | ds => numberIn? 10 ds

/-- What stands between the dots of a name; a dot at its end is passed over. -/
def labels (name : List Char) : List (List Char) :=
  match (name.splitOn '.').reverse with
  | [] :: last :: front => (last :: front).reverse
  | all => all.reverse

/-- The last label is a number, so that the name is meant for an address. -/
def endsInNumber (name : List Char) : Bool :=
  match (labels name).getLast? with
  | some last => (!last.isEmpty && last.all Char.isDigit) || (addressNumber? last).isSome
  | none => false

/-- The number that a numeric address stands for. Each number but the last is one byte, and the last is
all the bytes that are left. -/
def fourBytes? (name : List Char) : Option Nat := do
  let numbers ← (labels name).mapM addressNumber?
  let front := numbers.dropLast
  let last ← numbers.getLast?
  guard (numbers.length ≤ 4 && front.all (· ≤ 255) && last < Nat.pow 256 (4 - front.length))
  some ((front.mapIdx (fun i n => n * Nat.pow 256 (3 - i))).foldl (· + ·) last)

/-- Four bytes with dots between them. -/
def dottedText (n : Nat) : List Char :=
  ['.'].intercalate ([n / Nat.pow 256 3, n / Nat.pow 256 2, n / 256, n].map (fun m => Decimal.natText (m % 256)))

/-! ### Eight groups -/

/-- One to four hexadecimal digits. -/
def group? (s : List Char) : Option Nat := if s.isEmpty || 4 < s.length then none else numberIn? 16 s

/-- A byte in decimal digits, without needless zeros. -/
def plainByte? (s : List Char) : Option Nat :=
  match s with
  | [] => none
  | '0' :: _ :: _ => none
  | ds => (numberIn? 10 ds).filter (· ≤ 255)

/-- Four bytes at the end of an address, as two groups. -/
def dottedGroups? (s : List Char) : Option (List Nat) := do
  match ← (s.splitOn '.').mapM plainByte? with
  | [a, b, c, d] => some [256 * a + b, 256 * c + d]
  | _ => none

/-- Groups one after another; the last may be given as four bytes. -/
def groups? (mayEndInBytes : Bool) : List String → Option (List Nat)
  | [] => some []
  | [last] =>
    if mayEndInBytes && last.contains '.' then dottedGroups? last.toList else (group? last.toList).map ([·])
  | g :: rest => do return (← group? g.toList) :: (← groups? mayEndInBytes rest)

/-- What stands on one side of a double colon. -/
def side (s : String) : List String := if s = "" then [] else s.splitOn ":"

/-- The groups of an address. A double colon stands for one group of zeros or more. -/
def eightGroups? (inside : List Char) : Option (List Nat) := do
  match (String.ofList inside).splitOn "::" with
  | [whole] =>
    let gs ← groups? true (side whole)
    if gs.length = 8 then some gs else none
  | [left, right] =>
    let front ← groups? false (side left)
    let back ← groups? true (side right)
    if front.length + back.length < 8 then
      some (front ++ List.replicate (8 - front.length - back.length) 0 ++ back)
    else none
  | _ => none

/-- Where the first of the longest rows of zeros starts, and how long it is. -/
def longestZeros (gs : List Nat) : Nat × Nat :=
  (List.range gs.length).foldl
    (fun best i =>
      let row := ((gs.drop i).takeWhile (· == 0)).length
      if best.2 < row then (i, row) else best) (0, 0)

def groupsText (gs : List Nat) : List Char := [':'].intercalate (gs.map (Nat.toDigits 16))

/-- An address in brackets. Two groups of zeros or more in a row are left out once. -/
def bracketedText (gs : List Nat) : List Char :=
  let (start, row) := longestZeros gs
  let body := if row < 2 then groupsText gs
    else groupsText (gs.take start) ++ [':', ':'] ++ groupsText (gs.drop (start + row))
  '[' :: body ++ [']']

/-! ### Encoded bytes -/

/-- The characters of a text in bytes. -/
def bytesOf (s : List Char) : Text.Bytes := s.flatMap String.utf8EncodeChar

/-- The byte that a percent sign and two hexadecimal digits stand for. -/
def escapedByte? (c a b : Char) : Option UInt8 := do
  guard (c = '%')
  let high ← hexNibble? a
  let low ← hexNibble? b
  some (UInt8.ofNat (16 * high + low))

/-- The bytes that a text stands for, where three characters may stand for one byte. -/
def decodedBytes : List Char → Text.Bytes
  | c :: a :: b :: rest => match escapedByte? c a b with
    | some byte => byte :: decodedBytes rest
    | none => String.utf8EncodeChar c ++ decodedBytes (a :: b :: rest)
  | s => bytesOf s

/-! ### Hosts -/

/-- How the names of hosts are spelled in ASCII, given in bytes; some bytes are no name. This is what the URL standard
calls domain to ASCII, and it takes the tables of all scripts. -/
abbrev ToAscii := Text.Bytes → Option (List Char)

/-- No name of another script is known. -/
def asciiOnly : ToAscii := fun _ => none

/-- The characters of bytes that are all ASCII. -/
def asciiChars? (bytes : Text.Bytes) : Option (List Char) :=
  if bytes.all (· < 128) then some (bytes.map fun b => Char.ofNat b.toNat) else none

/-- How a label begins that spells one in another script. -/
def spelledMark : List Char := ['x', 'n', '-', '-']

/-- The name in ASCII. One that is in ASCII already, without labels that spell others, only changes to small letters. -/
def asciiName? (toAscii : ToAscii) (bytes : Text.Bytes) : Option (List Char) :=
  match asciiChars? bytes with
  | some name =>
    let name := name.map Char.toLower
    if (name.splitOn '.').any spelledMark.isPrefixOf then toAscii bytes else some name
  | none => toAscii bytes

def isBarredInHost (c : Char) : Bool :=
  c.toNat ≤ 32 || 127 ≤ c.toNat || ['#', '/', ':', '<', '>', '?', '@', '[', '\\', ']', '^', '|', '%'].contains c

/-- A name in ASCII, or an address of four bytes. -/
def hostName? (toAscii : ToAscii) (name : List Char) : Option (List Char) := do
  let name ← asciiName? toAscii (decodedBytes name)
  if name.isEmpty || name.any isBarredInHost then none
  else if endsInNumber name then (fourBytes? name).map dottedText
  else some name

/-- An address between brackets. -/
def bracketed? (inside : List Char) : Option (List Char) := (eightGroups? inside).map bracketedText

end Colloquy.Http
