import Colloquy.Text.Extending
import Colloquy.Text.Unseen

/-! Characters that are written as escapes in quoted text, since a reader could not see them or would
see them as part of the character in front. -/

namespace Colloquy.Text

/-- Letters that only hold a place open. -/
def fillerRanges : Ranges := [(0x115F, 0x1160), (0x3164, 0x3164), (0xFFA0, 0xFFA0)]

/-- Voicing marks that extend the character in front of them and yet stand beside it as letters. -/
def voicingRanges : Ranges := [(0xFF9E, 0xFF9F)]

/-- The character has no plain form in quoted text. -/
def isEscaped (c : Char) : Bool :=
  let n := c.toNat
  if 0x20 ≤ n && n < 0x7F then false
  else unseenRanges.holds n || fillerRanges.holds n || (extendingRanges.holds n && !voicingRanges.holds n)

end Colloquy.Text
