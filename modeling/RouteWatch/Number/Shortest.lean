import RouteWatch.Number.Binary

-- The shortest decimal that reads back as a given double.
namespace RouteWatch.Number

-- Compares `a * 2 ^ p * 10 ^ t` with `b * 2 ^ q`, exponents of either sign.
def cmpScaled (a : Nat) (p t : Int) (b : Nat) (q : Int) : Ordering :=
  let s2 : Int := max 0 (max (-p) (-q))
  let s10 : Int := max 0 (-t)
  let lhs := a * Nat.pow 2 (p + s2).toNat * Nat.pow 10 (t + s10).toNat
  let rhs := b * Nat.pow 2 (q + s2).toNat * Nat.pow 10 s10.toNat
  compare lhs rhs

-- The interval of reals that round to `x`, in quarter steps `2 ^ (e - 2)`: its ends as
-- multiples of the quarter step, and whether they belong to it.
def roundingInterval (x : Binary) : Nat × Nat × Bool :=
  let low := if x.m = Nat.pow 2 52 ∧ x.e > Binary.minExp then 4 * x.m - 1 else 4 * x.m - 2
  (low, 4 * x.m + 2, x.m % 2 = 0)

-- Whether `d * 10 ^ k` rounds to `x`.
def readsBack (x : Binary) (d : Nat) (k : Int) : Bool :=
  let (low, high, closed) := roundingInterval x
  let above := cmpScaled d 0 k low (x.e - 2)
  let below := cmpScaled d 0 k high (x.e - 2)
  (above == .gt || (closed && above == .eq)) && (below == .lt || (closed && below == .eq))

-- The decimal exponent of the leading digit of `x > 0`: `10 ^ E ≤ x < 10 ^ (E + 1)`.
def leadExponent (x : Binary) : Int :=
  -- log10 2 is about 78913 / 2 ^ 18; the estimate is off by at most one
  let guess : Int := (((x.e + (Binary.bitLength x.m : Int) - 1) * 78913) / 262144)
  let up := if cmpScaled 1 0 (guess + 1) x.m x.e != .gt then guess + 1 else guess
  if cmpScaled 1 0 up x.m x.e == .gt then up - 1 else up

-- `x` divided by `10 ^ k`, rounded down.
def floorDiv10 (x : Binary) (k : Int) : Nat :=
  let (a, b) := Binary.pow2 x.e
  let (c, d) := Binary.pow10 k
  (x.m * a * d) / (b * c)

-- Drops trailing zeros of `d * 10 ^ k`.
def trimZeros : Nat → Nat → Int → Nat × Int
  | 0, d, k => (d, k)
  | fuel + 1, d, k => if d ≠ 0 ∧ d % 10 = 0 then trimZeros fuel (d / 10) (k + 1) else (d, k)

-- Searches grids of `n`, `n + 1`, … up to 17 significant digits.
def searchDigits (x : Binary) (lead : Int) : Nat → Nat → Nat × Int
  | 0, _ => (x.m, x.e)
  | fuel + 1, n =>
    let k := lead - n + 1
    let lo := floorDiv10 x k
    let hi := lo + 1
    let loOk := readsBack x lo k
    let hiOk := readsBack x hi k
    if loOk && hiOk then
      -- the nearer one; on a tie the even one
      match cmpScaled (2 * lo + 1) 0 k x.m (x.e + 1) with
      | .gt => (lo, k)
      | .lt => (hi, k)
      | .eq => if lo % 2 = 0 then (lo, k) else (hi, k)
    else if loOk then (lo, k)
    else if hiOk then (hi, k)
    else searchDigits x lead fuel (n + 1)

-- The shortest decimal `d * 10 ^ k` that reads back as `x`, without trailing zeros in `d`;
-- zero for zero.
def shortest (x : Binary) : Nat × Int :=
  if x.m = 0 then (0, 0)
  else
    let (d, k) := searchDigits x (leadExponent x) 17 1
    trimZeros 20 d k

-- How a decimal is laid out.
structure Layout where
  -- Positional notation is used when the point falls after digit `kk` with
  -- `positionalFrom ≤ kk ≤ positionalTo`; otherwise one digit, a point and an exponent.
  positionalFrom : Int
  positionalTo : Int
  -- A whole number in positional notation keeps a `.0`.
  pointZero : Bool
  -- A positive exponent is written with a `+`.
  plusExponent : Bool
  deriving Repr

-- Layout of JSON numbers in messages: positional from 1e-5 up to 1e16, `.0` kept,
-- `1e+30` and `1.5e-7` beyond.
def Layout.json : Layout := ⟨-4, 16, true, true⟩

-- Layout of numbers in plain text: always positional, no `.0` after a whole number.
def Layout.plain : Layout := ⟨-100000, 100000, false, false⟩

def digitsOf (n : Nat) : List Char :=
  (toString n).toList

-- Writes `d * 10 ^ k`, negative if `neg`, in layout `l`.
def render (l : Layout) (neg : Bool) (d : Nat) (k : Int) : String :=
  let sign := if neg then "-" else ""
  if d = 0 then sign ++ (if l.pointZero then "0.0" else "0")
  else
    let ds := digitsOf d
    let len : Int := ds.length
    let kk := len + k
    let body :=
      if l.positionalFrom ≤ kk ∧ kk ≤ l.positionalTo then
        if 0 ≤ k then
          String.ofList ds ++ String.ofList (List.replicate k.toNat '0') ++
            (if l.pointZero then ".0" else "")
        else if 0 < kk then
          String.ofList (ds.take kk.toNat) ++ "." ++ String.ofList (ds.drop kk.toNat)
        else
          "0." ++ String.ofList (List.replicate (-kk).toNat '0') ++ String.ofList ds
      else
        let mant := match ds with
          | [c] => String.singleton c
          | c :: rest => String.singleton c ++ "." ++ String.ofList rest
          | [] => ""
        let e := kk - 1
        mant ++ "e" ++ (if l.plusExponent && 0 < e then "+" else "") ++ toString e
    sign ++ body

def Binary.text (x : Binary) (neg : Bool) (l : Layout) : String :=
  let (d, k) := shortest x
  render l neg d k

end RouteWatch.Number
