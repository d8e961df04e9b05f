import Colloquy.Text.Ranges

/-! White space, the 25 characters with the Unicode property of that name. -/

namespace Colloquy.Text

def blankRanges : Ranges :=
  [(0x09, 0x0D), (0x20, 0x20), (0x85, 0x85), (0xA0, 0xA0), (0x1680, 0x1680), (0x2000, 0x200A),
   (0x2028, 0x2029), (0x202F, 0x202F), (0x205F, 0x205F), (0x3000, 0x3000)]

def isBlank (c : Char) : Bool := blankRanges.holds c.toNat

/-- Nothing but white space. -/
def isAllBlank (s : String) : Bool := s.all isBlank

/-- The text, if there is any. -/
def nonEmpty? (s : String) : Option String := if s.isEmpty then none else some s

/-- The text, if there is more to it than white space. -/
def nonBlank? (s : String) : Option String := if isAllBlank s then none else some s

/-- The text without white space at its ends. -/
def trimBlanks (s : String) : String :=
  String.ofList ((s.toList.dropWhile isBlank).reverse.dropWhile isBlank).reverse

end Colloquy.Text
