-- Durations as text: the largest of the units s, ms, µs and ns that leaves a whole part of at
-- least one, then a point and the fraction with its trailing zeros dropped, then the unit. A zero
-- duration is `0ns`.
namespace RouteWatch.Text

-- The digits of `frac / (10 * unit)` after the point, stopping once the rest is zero.
def fractionDigits : Nat → Nat → Nat → List Char
  | 0, _, _ => []
  | fuel + 1, frac, unit =>
    if frac = 0 || unit = 0 then []
    else Char.ofNat (48 + frac / unit) :: fractionDigits fuel (frac % unit) (unit / 10)

-- A whole part, a fraction counted in units of `10 * unit` below it, and the unit's name.
def decimalText (whole frac unit : Nat) (name : String) : String :=
  let digits := fractionDigits 9 frac unit
  toString whole ++ (if digits.isEmpty then "" else "." ++ String.ofList digits) ++ name

-- A duration of `nanos` nanoseconds as text.
def durationText (nanos : Nat) : String :=
  let secs := nanos / 1000000000
  let sub := nanos % 1000000000
  if 0 < secs then decimalText secs sub 100000000 "s"
  else if 1000000 ≤ sub then decimalText (sub / 1000000) (sub % 1000000) 100000 "ms"
  else if 1000 ≤ sub then decimalText (sub / 1000) (sub % 1000) 100 "µs"
  else decimalText sub 0 1 "ns"

def millisText (ms : Nat) : String :=
  durationText (ms * 1000000)

example : millisText 0 = "0ns" ∧ millisText 1500 = "1.5s" ∧ millisText 60000 = "60s" ∧
    millisText 7 = "7ms" ∧ millisText 1001 = "1.001s" := by
  decide

end RouteWatch.Text
