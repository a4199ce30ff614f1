import RouteWatch.Text.Blank

-- Instants of UTC time and their RFC 3339 text.
namespace RouteWatch.Time

-- A UTC instant: whole days since 1970-01-01, the second of the day, and nanoseconds; the
-- nanoseconds of a leap second run from 10 ^ 9 up.
structure Instant where
  days : Int
  second : Nat
  nanos : Nat
  deriving DecidableEq, Repr

-- Why a text is no instant.
inductive Fault where
  | outOfRange
  | impossible
  | notEnough
  | invalid
  | tooShort
  | tooLong
  deriving DecidableEq, Repr

def Fault.message : Fault → String
  | .outOfRange => "input is out of range"
  | .impossible => "no possible date and time matching input"
  | .notEnough => "input is not enough for unique date and time"
  | .invalid => "input contains invalid characters"
  | .tooShort => "premature end of input"
  | .tooLong => "trailing input"

-- ## Calendar

-- Whether a year of the proleptic Gregorian calendar is a leap year.
def leapYear (y : Int) : Bool :=
  (y % 4 == 0 && y % 100 != 0) || y % 400 == 0

-- The number of days of a month.
def monthLength (y : Int) (m : Nat) : Nat :=
  match m with
  | 2 => if leapYear y then 29 else 28
  | 4 | 6 | 9 | 11 => 30
  | _ => 31

-- Days from 1970-01-01 to a date.
def daysFromCivil (y : Int) (m d : Nat) : Int :=
  let y := if m ≤ 2 then y - 1 else y
  let era := y / 400
  let yoe := y - era * 400
  let mp : Int := if m > 2 then (m : Int) - 3 else (m : Int) + 9
  let doy := (153 * mp + 2) / 5 + (d : Int) - 1
  let doe := yoe * 365 + yoe / 4 - yoe / 100 + doy
  era * 146097 + doe - 719468

-- The date of a day counted from 1970-01-01, as year, month and day.
def civilFromDays (z : Int) : Int × Nat × Nat :=
  let z := z + 719468
  let era := z / 146097
  let doe := z - era * 146097
  let yoe := (doe - doe / 1460 + doe / 36524 - doe / 146096) / 365
  let doy := doe - (365 * yoe + yoe / 4 - yoe / 100)
  let mp := (5 * doy + 2) / 153
  let d := doy - (153 * mp + 2) / 5 + 1
  let m := if mp < 10 then mp + 3 else mp - 9
  let y := yoe + era * 400 + (if m ≤ 2 then 1 else 0)
  (y, m.toNat, d.toNat)

-- The least and the greatest year of an instant.
def minYear : Int := -262143
def maxYear : Int := 262142

-- ## Reading

-- Reads at least `min` and at most `max` digits.
def number (s : List Char) (min max : Nat) : Except Fault (Nat × List Char) :=
  if s.length < min then .error .tooShort
  else
    let ds := (s.take max).takeWhile Char.isDigit
    if ds.length < min then .error .invalid
    else .ok (ds.foldl (fun n c => 10 * n + (c.toNat - 48)) 0, s.drop ds.length)

def literal (lit : Char) (s : List Char) : Except Fault (List Char) :=
  match s with
  | [] => .error .tooShort
  | c :: rest => if c = lit then .ok rest else .error .invalid

-- Reads a year: a sign and any number of digits, or up to four digits.
def year (s : List Char) : Except Fault (Int × List Char) := do
  let s := Text.dropBlanks s
  match s with
  | '-' :: rest => let (n, r) ← number rest 1 rest.length; pure (-(n : Int), r)
  | '+' :: rest => let (n, r) ← number rest 1 rest.length; pure ((n : Int), r)
  | _ => let (n, r) ← number s 1 4; pure ((n : Int), r)

-- Reads a field of up to two digits and checks it lies in `lo ..= hi`.
def field (s : List Char) (lo hi : Nat) : Except Fault (Nat × List Char) := do
  let (n, r) ← number (Text.dropBlanks s) 1 2
  if lo ≤ n ∧ n ≤ hi then pure (n, r) else throw .outOfRange

-- Reads a fraction after a point: up to nine digits count, later ones are skipped.
def fraction (s : List Char) : Except Fault (Nat × List Char) := do
  let (n, r) ← number s 1 9
  let used := s.length - r.length
  pure (n * Nat.pow 10 (9 - used), r.dropWhile Char.isDigit)

-- The first two bytes of `s`, as characters: a character of more than one byte stands for
-- two bytes that are no digits.
def twoDigits (s : List Char) : Except Fault (Char × Char) :=
  match s with
  | a :: b :: _ => .ok (a, b)
  | [a] => if a.utf8Size ≥ 2 then .ok (a, a) else .error .tooShort
  | [] => .error .tooShort

-- Reads an offset from UTC, in seconds east.
def offset (s : List Char) : Except Fault (Int × List Char) := do
  match s with
  | 'Z' :: rest | 'z' :: rest => pure (0, rest)
  | c :: rest =>
    let negative ← if c = '+' then pure false
      else if c = '-' ∨ c = '−' then pure true
      else throw .invalid
    let (h1, h2) ← twoDigits rest
    if ¬ (h1.isDigit ∧ h2.isDigit) then throw .invalid
    let hours := (h1.toNat - 48) * 10 + (h2.toNat - 48)
    let s := (rest.drop 2).dropWhile fun c => c = ':' || Text.isBlank c
    let (m1, m2) ← twoDigits s
    if ¬ m2.isDigit then throw .invalid
    if '0' ≤ m1 ∧ m1 ≤ '5' then pure () else if m1.isDigit then throw .outOfRange else throw .invalid
    let minutes := (m1.toNat - 48) * 10 + (m2.toNat - 48)
    let secs : Int := (hours * 3600 + minutes * 60 : Nat)
    pure (if negative then -secs else secs, s.drop 2)
  | [] => throw .tooShort

-- Whether `s` starts with `UTC` in any case.
def startsWithUtc (s : List Char) : Bool :=
  match s with
  | a :: b :: c :: _ => a.toUpper = 'U' && b.toUpper = 'T' && c.toUpper = 'C'
  | _ => false

-- The fields of a text read as local date, time and offset.
structure Fields where
  year : Int
  month : Nat
  day : Nat
  hour : Nat
  minute : Nat
  second : Nat
  nanos : Nat
  offset : Int
  deriving Repr

-- Reads the fields of a text, in the order they stand.
def fields (s : List Char) : Except Fault Fields := do
  let (y, s) ← year s
  if y < -2147483648 ∨ 2147483647 < y then throw .outOfRange
  let s ← literal '-' (Text.dropBlanks s)
  let (mo, s) ← field s 1 12
  let s ← literal '-' (Text.dropBlanks s)
  let (d, s) ← field s 1 31
  let s ← match s with
    | c :: rest => if c = 'T' ∨ c = 't' ∨ c = ' ' then pure rest else throw .invalid
    | [] => throw .tooShort
  let (h, s) ← field s 0 23
  let s ← literal ':' (Text.dropBlanks s)
  let (mi, s) ← field s 0 59
  let s ← literal ':' (Text.dropBlanks s)
  let (se, s) ← field s 0 60
  let (ns, s) ← match s with
    | '.' :: rest => fraction rest
    | _ => pure (0, s)
  let s := Text.dropBlanks s
  let (off, s) ← if startsWithUtc s then pure (0, s.drop 3) else offset s
  if !(Text.dropBlanks s).isEmpty then throw .tooLong
  pure ⟨y, mo, d, h, mi, se, ns, off⟩

-- The UTC instant of fields read from a text.
def Fields.toInstant (f : Fields) : Except Fault Instant := do
  if f.year < minYear ∨ maxYear < f.year ∨ f.day > monthLength f.year f.month then
    throw .outOfRange
  if f.offset ≤ -86400 ∨ 86400 ≤ f.offset then throw .outOfRange
  -- second 60 is second 59 with a second's worth of extra nanoseconds
  let (sec, leap) := if f.second = 60 then (59, 1000000000) else (f.second, 0)
  let wall : Int := f.hour * 3600 + f.minute * 60 + sec
  let utc := wall - f.offset
  let days := daysFromCivil f.year f.month f.day + utc / 86400
  let (y, _, _) := civilFromDays days
  if y < minYear ∨ maxYear < y then throw .impossible
  pure ⟨days, (utc % 86400).toNat, f.nanos + leap⟩

def Instant.parse (s : String) : Except Fault Instant := do
  (← fields s.toList).toInstant

-- ## Writing

-- `n` in decimal, with zeros in front up to `width` digits.
def padded (width n : Nat) : String :=
  let ds := toString n
  String.ofList (List.replicate (width - ds.length) '0') ++ ds

-- A year: four digits within 0 to 9999, else a sign and at least four digits.
def yearText (y : Int) : String :=
  if 0 ≤ y ∧ y ≤ 9999 then padded 4 y.toNat
  else (if y < 0 then "-" else "+") ++ padded 4 y.natAbs

-- A fraction of a second: none when zero, else 3, 6 or 9 digits, the fewest that hold it.
def fractionText (nanos : Nat) : String :=
  if nanos = 0 then ""
  else if nanos % 1000000 = 0 then "." ++ padded 3 (nanos / 1000000)
  else if nanos % 1000 = 0 then "." ++ padded 6 (nanos / 1000)
  else "." ++ padded 9 nanos

-- The RFC 3339 text of an instant, in UTC.
def Instant.text (t : Instant) : String :=
  let (y, m, d) := civilFromDays t.days
  -- a leap second is second 59 with a second's worth of extra nanoseconds
  let leap := decide (1000000000 ≤ t.nanos)
  let nanos := if leap then t.nanos - 1000000000 else t.nanos
  let hh := t.second / 3600
  let mm := t.second % 3600 / 60
  let ss := t.second % 60 + (if leap then 1 else 0)
  yearText y ++ "-" ++ padded 2 m ++ "-" ++ padded 2 d ++ "T" ++ padded 2 hh ++ ":" ++
    padded 2 mm ++ ":" ++ padded 2 ss ++ fractionText nanos ++ "Z"

end RouteWatch.Time
