/-! Exact arithmetic on binary floating-point numbers. A finite value is `m * 2 ^ q` with natural
`m`; decimals are compared with it by cross-multiplying naturals, so no statement about digits
rests on floating-point operations. -/

namespace Colloquy.Decimal

/-- The magnitude of a finite double, `m * 2 ^ q`. -/
structure Binary where
  m : Nat
  q : Int
  /-- The gap to the value below is half the gap to the value above. -/
  narrowBelow : Bool
deriving DecidableEq, Repr

/-- The magnitude held by the bits of a finite double; the sign bit is ignored. -/
def Binary.ofBits (b : UInt64) : Binary :=
  let e := ((b >>> 52) &&& 0x7FF).toNat
  let f := (b &&& 0xFFFFFFFFFFFFF).toNat
  if e == 0 then ⟨f, -1074, false⟩ else ⟨0x10000000000000 + f, (e : Int) - 1075, f == 0 && e > 1⟩

def Binary.ofFloat (x : Float) : Binary := .ofBits x.toBits

/-- The sign bit is set; this tells `-0.0` from `0.0`. -/
def isNegative (x : Float) : Bool := x.toBits >>> 63 == 1

/-- Neither an infinity nor a NaN. -/
def isFinite (x : Float) : Bool := (x.toBits >>> 52) &&& 0x7FF != 0x7FF

/-- The number `digits * 10 ^ exp`. -/
structure Digits where
  digits : Nat
  exp : Int
deriving DecidableEq, Repr

/-- Which of two equally close candidates is taken. -/
inductive Tie where
  | toEven
  | awayFromZero
deriving DecidableEq, Repr

/-- Compares `a * 10 ^ i` with `n * 2 ^ j`. -/
def compareScaled (a : Nat) (i : Int) (n : Nat) (j : Int) : Ordering :=
  compare (a * Nat.pow 10 i.toNat * Nat.pow 2 (-j).toNat) (n * Nat.pow 2 j.toNat * Nat.pow 10 (-i).toNat)

/-- The decimal lies among the reals that round to `x`: between the midpoints to its neighbours,
the midpoints included when `m` is even. -/
def Binary.readsBack (x : Binary) (d : Digits) : Bool :=
  let lo := if x.narrowBelow then 4 * x.m - 1 else 4 * x.m - 2
  let hi := 4 * x.m + 2
  let closed := x.m % 2 == 0
  let below := compareScaled d.digits d.exp lo (x.q - 2)
  let above := compareScaled d.digits d.exp hi (x.q - 2)
  (below == .gt || (closed && below == .eq)) && (above == .lt || (closed && above == .eq))

end Colloquy.Decimal
