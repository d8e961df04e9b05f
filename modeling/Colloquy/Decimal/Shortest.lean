import Colloquy.Decimal.Binary

/-! The fewest decimal digits that identify a double. For one, two, … seventeen digits the two
neighbours of the value on that decimal grid are tried; the first grid with a neighbour that reads
back wins, and of two such neighbours the closer one. -/

namespace Colloquy.Decimal

/-- The least `k` with `m * 2 ^ q < 10 ^ k`, for positive `m`: an estimate from the binary
logarithm, corrected by exact comparisons. -/
def Binary.scale (x : Binary) : Int :=
  let estimate := Int.fdiv ((x.m.log2 + x.q) * 30103) 100000 - 1
  let steps := (List.range 4).map (fun (i : Nat) => estimate + (i : Int))
  match steps.find? (fun k => compareScaled 1 k x.m x.q == .gt) with
  | some k => k
  | none => estimate + 4

/-- The value on the grid of `10 ^ exp`, rounded down. -/
def Binary.floorAt (x : Binary) (exp : Int) : Nat :=
  (x.m * Nat.pow 2 x.q.toNat * Nat.pow 10 (-exp).toNat) / (Nat.pow 2 (-x.q).toNat * Nat.pow 10 exp.toNat)

/-- The closer of the neighbours `n` and `n + 1` of the value on the grid of `10 ^ exp`. -/
def Binary.closer (x : Binary) (tie : Tie) (n : Nat) (exp : Int) : Digits :=
  match compareScaled (2 * n + 1) exp (2 * x.m) x.q with
  | .lt => ⟨n + 1, exp⟩
  | .gt => ⟨n, exp⟩
  | .eq => match tie with
    | .awayFromZero => ⟨n + 1, exp⟩
    | .toEven => if n % 2 == 0 then ⟨n, exp⟩ else ⟨n + 1, exp⟩

/-- The neighbour of the value on the grid of `10 ^ exp` that reads back, if there is one. -/
def Binary.onGrid (x : Binary) (tie : Tie) (exp : Int) : Option Digits :=
  let n := x.floorAt exp
  match x.readsBack ⟨n, exp⟩, x.readsBack ⟨n + 1, exp⟩ with
  | true, true => some (x.closer tie n exp)
  | true, false => some ⟨n, exp⟩
  | false, true => some ⟨n + 1, exp⟩
  | false, false => none

/-- Drops trailing zeros of the digits into the exponent, at most `count` of them. -/
def Digits.strip : Nat → Digits → Digits
  | 0, d => d
  | count + 1, d => if d.digits % 10 == 0 && d.digits != 0 then strip count ⟨d.digits / 10, d.exp + 1⟩ else d

/-- The value itself as a decimal. -/
def Binary.exact (x : Binary) : Digits :=
  ⟨x.m * Nat.pow 2 x.q.toNat * Nat.pow 5 (-x.q).toNat, min x.q 0⟩

/-- The shortest decimal that reads back to a positive value. -/
def Binary.shortest (x : Binary) (tie : Tie) : Digits :=
  let k := x.scale
  let grids := (List.range 17).map (fun (i : Nat) => k - 1 - (i : Int))
  ((grids.findSome? (x.onGrid tie)).getD x.exact).strip 400

end Colloquy.Decimal
