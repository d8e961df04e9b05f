/-! Spans of time, in milliseconds, as they are written in messages: whole seconds with up to three
places from a second on, milliseconds below. -/

namespace Colloquy.Text

def durationText (ms : Nat) : String :=
  if ms = 0 then "0ns"
  else if ms < 1000 then s!"{ms}ms"
  else
    let digits := Nat.toDigits 10 (ms % 1000)
    let places := List.replicate (3 - digits.length) '0' ++ digits
    let kept := (places.reverse.dropWhile (· == '0')).reverse
    let fraction := if kept.isEmpty then "" else "." ++ String.ofList kept
    s!"{ms / 1000}{fraction}s"

end Colloquy.Text
