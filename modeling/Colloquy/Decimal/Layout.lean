import Colloquy.Decimal.Shortest

/-! Laying out shortest digits as text. A `Layout` collects the decisions of one output format;
`render` follows them. -/

namespace Colloquy.Decimal

/-- The layout decisions of a format for doubles. -/
structure Layout where
  /-- Exponents of the leading digit written positionally, both ends included; `none` for all. -/
  positional : Option (Int × Int)
  /-- An integral value keeps a point and one zero. -/
  pointZero : Bool
  tie : Tie

/-- The decimal digits of a natural number. -/
def natText (n : Nat) : List Char := Nat.toDigits 10 n

def intText (n : Int) : List Char :=
  if n < 0 then '-' :: natText n.natAbs else natText n.natAbs

/-- Digits written out with a point where it falls. -/
def positionalText (pointZero : Bool) (d : Digits) : List Char :=
  let ds := natText d.digits
  let lead : Int := ds.length + d.exp
  if 0 ≤ d.exp then
    ds ++ List.replicate d.exp.toNat '0' ++ (if pointZero then ['.', '0'] else [])
  else if 0 < lead then
    ds.take lead.toNat ++ '.' :: ds.drop lead.toNat
  else
    '0' :: '.' :: List.replicate (-lead).toNat '0' ++ ds

/-- One digit, the rest behind a point, and a signed exponent. -/
def scientificText (d : Digits) : List Char :=
  let ds := natText d.digits
  let e : Int := ds.length + d.exp - 1
  let mantissa := match ds with
    | [] => []
    | [c] => [c]
    | c :: rest => c :: '.' :: rest
  mantissa ++ 'e' :: (if e < 0 then '-' else '+') :: natText e.natAbs

/-- The text of a finite double. -/
def Layout.render (style : Layout) (x : Float) : List Char :=
  let b := Binary.ofFloat x
  let magnitude :=
    if b.m == 0 then if style.pointZero then ['0', '.', '0'] else ['0']
    else
      let d := b.shortest style.tie
      let lead : Int := (natText d.digits).length + d.exp - 1
      match style.positional with
      | none => positionalText style.pointZero d
      | some (low, high) =>
        if low ≤ lead && lead ≤ high then positionalText style.pointZero d else scientificText d
  if isNegative x then '-' :: magnitude else magnitude

end Colloquy.Decimal
