/-! Classes of characters as closed ranges of code points, ascending and apart. -/

namespace Colloquy.Text

abbrev Ranges := List (Nat × Nat)

/-- The code point lies in one of the ranges. -/
def Ranges.holds (rs : Ranges) (n : Nat) : Bool := rs.any (fun r => r.1 ≤ n && n ≤ r.2)

end Colloquy.Text
