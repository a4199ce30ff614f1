import RouteWatch.Number.Shortest

-- Doubles as values: finite ones as an exact `Binary` with a sign, the two infinities, and NaN.
namespace RouteWatch.Number

-- A binary64 value.
inductive Double where
  | finite (neg : Bool) (x : Binary)
  | infinite (neg : Bool)
  | nan
  deriving DecidableEq, Repr

namespace Double

-- The double nearest to `d * 10 ^ k`, negative if `neg`. Far beyond the range of doubles the
-- answer is known without computing the power.
def ofDecimal (neg : Bool) (d : Nat) (k : Int) : Double :=
  if d = 0 then .finite neg ⟨0, Binary.minExp⟩
  else
    let len : Int := (toString d).length
    if len + k > 400 then .infinite neg
    else if len + k < -400 then .finite neg ⟨0, Binary.minExp⟩
    else
      match Binary.nearest d k with
      | some x => .finite neg x
      | none => .infinite neg

def isDigitChar (c : Char) : Bool :=
  '0' ≤ c && c ≤ '9'

def digitsValue (ds : List Char) : Nat :=
  ds.foldl (fun n c => 10 * n + (c.toNat - 48)) 0

-- An exponent: an optional sign and at least one digit, nothing after.
def exponentOf (cs : List Char) : Option Int :=
  let (neg, ds) := match cs with
    | '+' :: rest => (false, rest)
    | '-' :: rest => (true, rest)
    | _ => (false, cs)
  if ds.isEmpty || !ds.all isDigitChar then none
  else
    -- beyond this size the exponent only decides between zero and infinity
    let v : Int := min (digitsValue ds) 100000
    some (if neg then -v else v)

-- Reads an unsigned decimal: digits, an optional point with digits, an optional exponent;
-- at least one digit before the exponent.
def unsignedOf (neg : Bool) (cs : List Char) : Option Double :=
  let whole := cs.takeWhile isDigitChar
  let rest := cs.drop whole.length
  let (frac, rest) := match rest with
    | '.' :: more => (more.takeWhile isDigitChar, more.drop (more.takeWhile isDigitChar).length)
    | _ => ([], rest)
  if whole.isEmpty && frac.isEmpty then none
  else
    let expo := match rest with
      | [] => some 0
      | c :: more => if c = 'e' ∨ c = 'E' then exponentOf more else none
    match expo with
    | none => none
    | some e => some (ofDecimal neg (digitsValue (whole ++ frac)) (e - frac.length))

-- Reads a double from text: a sign, then digits or an infinity or NaN in any case.
def parse (s : String) : Option Double :=
  let cs := s.toList
  let (neg, body) := match cs with
    | '+' :: rest => (false, rest)
    | '-' :: rest => (true, rest)
    | _ => (false, cs)
  let word := String.ofList (body.map Char.toLower)
  if word = "inf" ∨ word = "infinity" then some (.infinite neg)
  else if word = "nan" then some .nan
  else unsignedOf neg body

-- The shortest positional text that reads back as the value.
def display : Double → String
  | .finite neg x => x.text neg Layout.plain
  | .infinite neg => if neg then "-inf" else "inf"
  | .nan => "NaN"

-- The text of `display`, with `.0` after a finite value that has no point.
def displayWithPoint (x : Double) : String :=
  let t := x.display
  match x with
  | .finite _ _ => if t.toList.contains '.' then t else t ++ ".0"
  | _ => t

def u64Max : Nat := Nat.pow 2 64 - 1

-- The value rounded to a whole number, half away from zero, and then held within the unsigned
-- 64-bit range: negative values and NaN give zero.
def roundToNat : Double → Nat
  | .finite true _ => 0
  | .finite false x =>
    let (num, den) := x.toRatio
    min ((2 * num + den) / (2 * den)) u64Max
  | .infinite neg => if neg then 0 else u64Max
  | .nan => 0

end Double

end RouteWatch.Number
