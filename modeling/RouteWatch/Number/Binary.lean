-- Binary64 numbers in exact arithmetic: a finite double is `m * 2 ^ e` with a 53-bit `m`
-- (fewer bits below the normal range), and `Binary.nearest` rounds a decimal `d * 10 ^ k` to the
-- double nearest to it, a tie going to the even `m`. Values beyond the largest double have no
-- double; values below half the least one round to zero.
namespace RouteWatch.Number

-- A finite non-negative double, `m * 2 ^ e`, with `m < 2 ^ 53` and `-1074 ≤ e`.
structure Binary where
  m : Nat
  e : Int
  deriving DecidableEq, Repr

namespace Binary

def bitLength (n : Nat) : Nat :=
  if n = 0 then 0 else Nat.log2 n + 1

-- `2 ^ k` for an exponent that may be negative, as a numerator and a denominator.
def pow2 (k : Int) : Nat × Nat :=
  if 0 ≤ k then (Nat.pow 2 k.toNat, 1) else (1, Nat.pow 2 (-k).toNat)

-- `10 ^ k` for an exponent that may be negative, as a numerator and a denominator.
def pow10 (k : Int) : Nat × Nat :=
  if 0 ≤ k then (Nat.pow 10 k.toNat, 1) else (1, Nat.pow 10 (-k).toNat)

-- `num / den` rounded to the nearest whole number, a tie going to the even one.
def roundHalfEven (num den : Nat) : Nat :=
  let q := num / den
  let r := num % den
  if 2 * r < den then q
  else if 2 * r > den then q + 1
  else if q % 2 = 0 then q else q + 1

-- The least exponent of a double.
def minExp : Int := -1074

-- The double nearest to `num / den` with exponent `e`, or with a larger exponent where the
-- quotient needs more than 53 bits.
def roundAt (num den : Nat) (e : Int) : Binary :=
  let (a, b) := pow2 (-e)
  let m := roundHalfEven (num * a) (den * b)
  if m = Nat.pow 2 53 then ⟨Nat.pow 2 52, e + 1⟩ else ⟨m, e⟩

-- The double nearest to `num / den`, or none beyond the largest double.
def nearestRatio (num den : Nat) : Option Binary :=
  if num = 0 then some ⟨0, minExp⟩
  else
    -- 2 ^ (bits - 1) ≤ num / den < 2 ^ (bits + 1) with this estimate
    let bits : Int := (bitLength num : Int) - (bitLength den : Int)
    -- the exponent that leaves 53 or 54 bits before rounding
    let e0 : Int := max (bits - 53) minExp
    let x := roundAt num den e0
    let x := if x.m ≥ Nat.pow 2 53 then roundAt num den (e0 + 1) else x
    if x.e + 53 > 1024 then none else some x

-- The double nearest to `d * 10 ^ k`, or none beyond the largest double.
def nearest (d : Nat) (k : Int) : Option Binary :=
  let (a, b) := pow10 k
  nearestRatio (d * a) b

-- The double nearest to `10 ^ k`.
def tenTo (k : Nat) : Binary :=
  (nearest 1 k).getD ⟨0, minExp⟩

-- The double nearest to the product of two doubles, or none beyond the largest double.
def mul (x y : Binary) : Option Binary :=
  let (a, b) := pow2 (x.e + y.e)
  nearestRatio (x.m * y.m * a) b

-- The double nearest to the quotient of two doubles; `y` is not zero.
def div (x y : Binary) : Binary :=
  let (a, b) := pow2 (x.e - y.e)
  (nearestRatio (x.m * a) (y.m * b)).getD ⟨0, minExp⟩

def toRatio (x : Binary) : Nat × Nat :=
  let (a, b) := pow2 x.e
  (x.m * a, b)

end Binary

end RouteWatch.Number
