import RouteWatch.Number.Shortest
import RouteWatch.Text.Debug

-- Reading JSON text with the positions and messages of its faults.
namespace RouteWatch.Wire

open Number

inductive Fault where
  | eofInList
  | eofInObject
  | eofInString
  | eofInValue
  | expectedColon
  | expectedListCommaOrEnd
  | expectedObjectCommaOrEnd
  | expectedIdent
  | expectedValue
  | invalidEscape
  | invalidNumber
  | numberOutOfRange
  | controlInString
  | keyNotString
  | loneLeadingSurrogate
  | trailingComma
  | trailingCharacters
  | hexEscapeEnded
  -- The text is JSON but not a value of the wanted shape.
  | data (message : String)
  deriving DecidableEq, Repr

namespace Fault

def message : Fault → String
  | .eofInList => "EOF while parsing a list"
  | .eofInObject => "EOF while parsing an object"
  | .eofInString => "EOF while parsing a string"
  | .eofInValue => "EOF while parsing a value"
  | .expectedColon => "expected `:`"
  | .expectedListCommaOrEnd => "expected `,` or `]`"
  | .expectedObjectCommaOrEnd => "expected `,` or `\x7d`"
  | .expectedIdent => "expected ident"
  | .expectedValue => "expected value"
  | .invalidEscape => "invalid escape"
  | .invalidNumber => "invalid number"
  | .numberOutOfRange => "number out of range"
  | .controlInString => "control character (\\u0000-\\u001F) found while parsing a string"
  | .keyNotString => "key must be a string"
  | .loneLeadingSurrogate => "lone leading surrogate in hex escape"
  | .trailingComma => "trailing comma"
  | .trailingCharacters => "trailing characters"
  | .hexEscapeEnded => "unexpected end of hex escape"
  | .data m => m

-- The class of a fault: the text ended early, it is not JSON, or it is JSON of another
-- shape.
def category : Fault → String
  | .eofInList | .eofInObject | .eofInString | .eofInValue => "Eof"
  | .data _ => "Data"
  | _ => "Syntax"

end Fault

-- A fault and where it was found, as line and column.
structure ReadError where
  fault : Fault
  place : Option (Nat × Nat)
  deriving DecidableEq, Repr

def ReadError.message (e : ReadError) : String :=
  match e.place with
  | some (line, col) => e.fault.message ++ " at line " ++ toString line ++ " column " ++ toString col
  | none => e.fault.message

-- A reader: the text is given, the position moves, and a fault stops it where it stands.
abbrev Read := ExceptT ReadError (StateT Nat (ReaderT ByteArray Id))

def byteAt? (b : ByteArray) (i : Nat) : Option UInt8 :=
  if h : i < b.size then some b[i] else none

-- The line and column of byte index `i`.
def place (b : ByteArray) (i : Nat) : Nat × Nat :=
  let (line, start) := ((b.extract 0 i).toList.zipIdx).foldl
    (fun (acc : Nat × Nat) (x : UInt8 × Nat) =>
      if x.1 = 10 then (acc.1 + 1, x.2 + 1) else acc) (1, 0)
  (line, i - start)

def peek? : Read (Option UInt8) := do
  return byteAt? (← read) (← get)

def eat : Read Unit :=
  modify (· + 1)

def next? : Read (Option UInt8) := do
  let c ← peek?
  if c.isSome then eat
  return c

def faultAt (f : Fault) (i : Nat) : Read ReadError := do
  return ⟨f, some (place (← read) i)⟩

-- Stops with a fault placed where reading stands.
def fail {α : Type} (f : Fault) : Read α := do
  throw (← faultAt f (← get))

-- Stops with a fault placed one byte on, found while looking at the next byte.
def peekFail {α : Type} (f : Fault) : Read α := do
  throw (← faultAt f (min (← read).size ((← get) + 1)))

-- Gives a fault without a place the place where reading stands.
def fix (e : ReadError) : Read ReadError := do
  if e.place.isSome then return e else faultAt e.fault (← get)

-- Runs `m`, keeping its failure as a value; the position stays where `m` stopped.
def attempt {α : Type} (m : Read α) : Read (Except ReadError α) :=
  ExceptT.mk (do let r ← m.run; return .ok r)

def isBlank (c : UInt8) : Bool :=
  c == 32 || c == 10 || c == 9 || c == 13

def skipBlanks (b : ByteArray) (i : Nat) : Nat :=
  if h : i < b.size then
    if isBlank b[i] then skipBlanks b (i + 1) else i
  else i
termination_by b.size - i

-- Skips blanks and looks at the next byte.
def ws : Read (Option UInt8) := do
  let b ← read
  let i := skipBlanks b (← get)
  set i
  return byteAt? b i

def isDigit (c : UInt8) : Bool :=
  48 ≤ c && c ≤ 57

def skipDigits (b : ByteArray) (i : Nat) : Nat :=
  if h : i < b.size then
    if isDigit b[i] then skipDigits b (i + 1) else i
  else i
termination_by b.size - i

def digitValue (b : ByteArray) (i j : Nat) : Nat :=
  (b.extract i j).toList.foldl (fun n c => 10 * n + (c.toNat - 48)) 0

-- ## Strings

def hexValue (c : UInt8) : Option Nat :=
  if 48 ≤ c ∧ c ≤ 57 then some (c.toNat - 48)
  else if 97 ≤ c ∧ c ≤ 102 then some (c.toNat - 87)
  else if 65 ≤ c ∧ c ≤ 70 then some (c.toNat - 55)
  else none

-- Four hex digits from index `i`: their value and the index after them.
def hex4 (b : ByteArray) (i : Nat) : Except (Fault × Nat) (Nat × Nat) :=
  if b.size < i + 4 then .error (.eofInString, b.size)
  else
    match (b.extract i (i + 4)).toList.mapM hexValue with
    | some ds => .ok (ds.foldl (fun n d => 16 * n + d) 0, i + 4)
    | none => .error (.invalidEscape, i + 4)

def utf8 (n : Nat) : ByteArray :=
  (String.singleton (Char.ofNat n)).toUTF8

-- A `\u` escape whose four digits start at `i`: its bytes and the index after it. A leading
-- surrogate must be followed by an escaped trailing one.
def unicodeEscape (b : ByteArray) (i : Nat) : Except (Fault × Nat) (ByteArray × Nat) := do
  let (n, i) ← hex4 b i
  if 0xDC00 ≤ n ∧ n ≤ 0xDFFF then throw (.loneLeadingSurrogate, i)
  if n < 0xD800 ∨ 0xDBFF < n then return (utf8 n, i)
  match byteAt? b i with
  | none => throw (.eofInString, i)
  | some c =>
    if c ≠ 92 then throw (.hexEscapeEnded, i + 1)
    match byteAt? b (i + 1) with
    | none => throw (.eofInString, i + 1)
    | some c =>
      if c ≠ 117 then throw (.hexEscapeEnded, i + 2)
      let (n2, i) ← hex4 b (i + 2)
      if n2 < 0xDC00 ∨ 0xDFFF < n2 then throw (.loneLeadingSurrogate, i)
      return (utf8 (0x10000 + (n - 0xD800) * 1024 + (n2 - 0xDC00)), i)

-- The escape whose letter is at index `i`: its bytes and the index after it.
def escape (b : ByteArray) (i : Nat) : Except (Fault × Nat) (ByteArray × Nat) :=
  match byteAt? b i with
  | none => .error (.eofInString, i)
  | some c =>
    let simple (n : Nat) : Except (Fault × Nat) (ByteArray × Nat) := .ok (utf8 n, i + 1)
    if c = 34 then simple 34
    else if c = 92 then simple 92
    else if c = 47 then simple 47
    else if c = 98 then simple 8
    else if c = 102 then simple 12
    else if c = 110 then simple 10
    else if c = 114 then simple 13
    else if c = 116 then simple 9
    else if c = 117 then unicodeEscape b (i + 1)
    else .error (.invalidEscape, i + 1)

-- The bytes of a string whose body starts at index `i`, and the index after its closing
-- quote.
def stringBody (b : ByteArray) (i : Nat) (acc : ByteArray) :
    Except (Fault × Nat) (ByteArray × Nat) :=
  if h : i < b.size then
    let c := b[i]
    if c = 34 then .ok (acc, i + 1)
    else if c = 92 then
      match escape b (i + 1) with
      | .error e => .error e
      | .ok (bytes, j) => if i < j then stringBody b j (acc ++ bytes) else .error (.eofInString, j)
    else if c < 32 then .error (.controlInString, i + 1)
    else stringBody b (i + 1) (acc.push c)
  else .error (.eofInString, i)
termination_by b.size - i

-- The index after a string whose body starts at `i`; escapes are checked only for their
-- form. Unlike `stringBody`, a control character is placed at itself, not after it.
def skipStringBody (b : ByteArray) (i : Nat) : Except (Fault × Nat) Nat :=
  if h : i < b.size then
    let c := b[i]
    if c = 34 then .ok (i + 1)
    else if c = 92 then
      match byteAt? b (i + 1) with
      | none => .error (.eofInString, i + 1)
      | some e =>
        if e = 117 then
          match hex4 b (i + 2) with
          | .error f => .error f
          | .ok (_, j) => if i < j then skipStringBody b j else .error (.eofInString, j)
        else if e = 34 ∨ e = 92 ∨ e = 47 ∨ e = 98 ∨ e = 102 ∨ e = 110 ∨ e = 114 ∨ e = 116 then
          skipStringBody b (i + 2)
        else .error (.invalidEscape, i + 2)
    else if c < 32 then .error (.controlInString, i)
    else skipStringBody b (i + 1)
  else .error (.eofInString, i)
termination_by b.size - i

-- Lifts a scan of the text that ends at an index, or at a fault placed at an index.
def scan {α : Type} (f : ByteArray → Nat → Except (Fault × Nat) (α × Nat)) : Read α := do
  match f (← read) (← get) with
  | .ok (a, j) => set j; return a
  | .error (fault, j) => set j; throw (← faultAt fault j)

-- Reads the rest of a string whose opening quote was taken.
def str : Read String := do
  let bytes ← scan fun b i => stringBody b i ByteArray.empty
  return (String.fromUTF8? bytes).getD ""

def skipStr : Read Unit :=
  scan fun b i => (skipStringBody b i).map fun j => ((), j)

-- ## Literals and numbers

-- Takes the bytes of `rest`, the remainder of a literal.
def ident (rest : List UInt8) : Read Unit :=
  rest.forM fun c => do
    match ← next? with
    | none => fail .eofInValue
    | some d => if d = c then pure () else fail .expectedIdent

-- A number as the reader found it.
inductive Num where
  | unsigned (n : Nat)
  | signed (n : Int)
  | float (neg : Bool) (x : Binary)
  deriving Repr

-- The largest signed 32-bit number, the bound of an exponent.
def exponentMax : Nat := 2147483647

-- Whether appending digit `d` to `sig` leaves the unsigned 64-bit range.
def overflows (sig d : Nat) : Bool :=
  sig * 10 + d > Nat.pow 2 64 - 1

-- `x * 10 ^ exp` as the reader computes it: `x` is already a double; each step multiplies or
-- divides by a power of ten of at most 308, rounding each time, and a product beyond the largest
-- double is out of range. Below the table the value is divided by `1e308` until it is zero.
def scaleLoop (x : Binary) (exp : Int) : Nat → Option Binary
  | 0 => some ⟨0, Binary.minExp⟩
  | fuel + 1 =>
    if exp.natAbs ≤ 308 then
      if 0 ≤ exp then x.mul (Binary.tenTo exp.natAbs) else some (x.div (Binary.tenTo exp.natAbs))
    else if x.m = 0 then some x
    else if 0 ≤ exp then none
    else scaleLoop (x.div (Binary.tenTo 308)) (exp + 308) fuel

-- The double of `sig * 10 ^ exp`, or a fault where reading stands when it is out of range.
def fromParts (neg : Bool) (sig : Nat) (exp : Int) : Read Num := do
  let x := (Binary.nearest sig 0).getD ⟨0, Binary.minExp⟩
  -- four steps take any double below the least one
  match scaleLoop x exp 8 with
  | some y => return .float neg y
  | none => fail .numberOutOfRange

-- Takes digits after an exponent's first, while the exponent stays within 32 bits. An
-- exponent beyond that is out of range for a non-zero number with a positive exponent, and
-- makes zero otherwise.
def exponentDigits (neg positiveExp : Bool) (sig : Nat) (start : Int) :
    Nat → Nat → Read Num
  | 0, exp => fromParts neg sig (if positiveExp then start + exp else start - exp)
  | fuel + 1, exp => do
    match ← peek? with
    | some c =>
      if isDigit c then
        eat
        let v := exp * 10 + (c.toNat - 48)
        if v > exponentMax then
          if sig ≠ 0 ∧ positiveExp then fail .numberOutOfRange
          set (skipDigits (← read) (← get))
          return .float neg ⟨0, Binary.minExp⟩
        else exponentDigits neg positiveExp sig start fuel v
      else fromParts neg sig (if positiveExp then start + exp else start - exp)
    | none => fromParts neg sig (if positiveExp then start + exp else start - exp)

-- Reads an exponent at its `e`, and the double it makes of `sig * 10 ^ start`.
def exponentOf (neg : Bool) (sig : Nat) (start : Int) : Read Num := do
  eat
  let positiveExp ← match ← peek? with
    | some 43 => do eat; pure true
    | some 45 => do eat; pure false
    | _ => pure true
  match ← next? with
  | none => fail .eofInValue
  | some c =>
    if !isDigit c then fail .invalidNumber
    exponentDigits neg positiveExp sig start ((← read).size + 1) (c.toNat - 48)

-- After the digits of a number: an exponent, or the double.
def afterDigits (neg : Bool) (sig : Nat) (exp : Int) : Read Num := do
  match ← peek? with
  | some 101 | some 69 => exponentOf neg sig exp
  | _ => fromParts neg sig exp

-- Takes fraction digits while they fit in the significand; further digits are dropped.
def fractionDigits (neg : Bool) (start : Int) : Nat → Nat → Nat → Read Num
  | 0, sig, taken => afterDigits neg sig (start - taken)
  | fuel + 1, sig, taken => do
    match ← peek? with
    | some c =>
      if isDigit c then
        if overflows sig (c.toNat - 48) then
          set (skipDigits (← read) (← get))
          afterDigits neg sig (start - taken)
        else
          eat
          fractionDigits neg start fuel (sig * 10 + (c.toNat - 48)) (taken + 1)
      else if taken = 0 then peekFail .invalidNumber
      else afterDigits neg sig (start - taken)
    | none =>
      if taken = 0 then peekFail .eofInValue else afterDigits neg sig (start - taken)

-- Reads a fraction at its point, after an integer part `sig * 10 ^ start`.
def fractionOf (neg : Bool) (sig : Nat) (start : Int) : Read Num := do
  eat
  fractionDigits neg start ((← read).size + 1) sig 0

-- After the integer digits of a number: a fraction, an exponent, or the integer itself (a
-- negative one beyond 64 bits, and minus zero, become doubles).
def afterInteger (neg : Bool) (sig : Nat) : Read Num := do
  match ← peek? with
  | some 46 => fractionOf neg sig 0
  | some 101 | some 69 => exponentOf neg sig 0
  | _ =>
    if !neg then return .unsigned sig
    else if sig = 0 ∨ Nat.pow 2 63 < sig then fromParts true sig 0
    else return .signed (-(sig : Int))

-- Integer digits beyond the significand: each one more power of ten.
def longInteger (neg : Bool) (sig : Nat) : Read Num := do
  let b ← read
  let i ← get
  let j := skipDigits b i
  set j
  let exp : Int := j - i
  match ← peek? with
  | some 46 => fractionOf neg sig exp
  | some 101 | some 69 => exponentOf neg sig exp
  | _ => fromParts neg sig exp

-- Takes integer digits while they fit in 64 bits.
def integerDigits (neg : Bool) : Nat → Nat → Read Num
  | 0, sig => afterInteger neg sig
  | fuel + 1, sig => do
    match ← peek? with
    | some c =>
      if isDigit c then
        if overflows sig (c.toNat - 48) then longInteger neg sig
        else
          eat
          integerDigits neg fuel (sig * 10 + (c.toNat - 48))
      else afterInteger neg sig
    | none => afterInteger neg sig

-- Reads a number whose sign, if any, was taken.
def number (neg : Bool) : Read Num := do
  match ← next? with
  | none => fail .eofInValue
  | some c =>
    if c = 48 then
      match ← peek? with
      | some d => if isDigit d then peekFail .invalidNumber else afterInteger neg 0
      | none => afterInteger neg 0
    else if isDigit c then integerDigits neg ((← read).size + 1) (c.toNat - 48)
    else fail .invalidNumber

-- Skips a number whose sign, if any, was taken, checking its form.
def skipNumber : Read Unit := do
  let b ← read
  match ← peek? with
  | some 48 =>
    eat
    match ← peek? with
    | some d => if isDigit d then peekFail .invalidNumber else pure ()
    | none => pure ()
  | some c =>
    eat
    if isDigit c then set (skipDigits b (← get)) else fail .invalidNumber
  | none => fail .invalidNumber
  if (← peek?) = some 46 then
    eat
    let i ← get
    let j := skipDigits b i
    if i = j then peekFail .invalidNumber
    set j
  match ← peek? with
  | some 101 | some 69 =>
    eat
    match ← peek? with
    | some 43 | some 45 => eat
    | _ => pure ()
    match ← next? with
    | some c => if isDigit c then set (skipDigits b (← get)) else fail .invalidNumber
    | none => fail .invalidNumber
  | _ => pure ()

-- ## Values of the wrong kind, and skipped values

-- A value found where another kind was wanted.
inductive Unexpected where
  | null
  | bool (b : Bool)
  | num (n : Num)
  | str (s : String)
  | seq
  | map
  deriving Repr

def Unexpected.text : Unexpected → String
  | .null => "null"
  | .bool b => "boolean `" ++ toString b ++ "`"
  | .num (.unsigned n) => "integer `" ++ toString n ++ "`"
  | .num (.signed n) => "integer `" ++ toString n ++ "`"
  | .num (.float neg x) => "floating point `" ++ x.text neg Layout.json ++ "`"
  | .str s => "string " ++ Text.debugQuote s
  | .seq => "sequence"
  | .map => "map"

-- The fault for a value of the wrong kind at the position, where `expecting` names what was
-- wanted. A fault met while reading that value wins.
def invalidType (expecting : String) : Read ReadError := do
  let r ← attempt do
    match ← peek? with
    | some 110 => eat; ident [117, 108, 108]; pure Unexpected.null
    | some 116 => eat; ident [114, 117, 101]; pure (.bool true)
    | some 102 => eat; ident [97, 108, 115, 101]; pure (.bool false)
    | some 45 => eat; pure (.num (← number true))
    | some 34 => eat; pure (.str (← str))
    | some 91 => pure .seq
    | some 123 => pure .map
    | some c => if isDigit c then pure (.num (← number false)) else peekFail .expectedValue
    | none => peekFail .expectedValue
  match r with
  | .error e => return e
  | .ok u => fix ⟨.data ("invalid type: " ++ u.text ++ ", expected " ++ expecting), none⟩

-- Where a skip stands: at the start of a value, or after one inside the open containers
-- (`comma` says a comma may come).
inductive SkipPhase where
  | value
  | after (comma : Bool)

-- Skips the key and colon of a member.
def skipKey : Read Unit := do
  match ← ws with
  | some 34 => eat
  | some _ => peekFail .keyNotString
  | none => peekFail .eofInObject
  skipStr
  match ← ws with
  | some 58 => eat
  | some _ => peekFail .expectedColon
  | none => peekFail .eofInObject

-- Skips values; `stack` holds the open containers, innermost first (91 for a list, 123 for
-- an object). Each round takes at least one byte or moves from `after` to `value`.
def skipLoop : Nat → List UInt8 → SkipPhase → Read Unit
  | 0, _, _ => pure ()
  | fuel + 1, stack, .value => do
    match ← ws with
    | none => peekFail .eofInValue
    | some c =>
      if c = 91 ∨ c = 123 then
        eat
        skipLoop fuel (c :: stack) (.after false)
      else
        if c = 110 then eat; ident [117, 108, 108]
        else if c = 116 then eat; ident [114, 117, 101]
        else if c = 102 then eat; ident [97, 108, 115, 101]
        else if c = 45 then eat; skipNumber
        else if isDigit c then skipNumber
        else if c = 34 then eat; skipStr
        else peekFail .expectedValue
        if stack.isEmpty then pure () else skipLoop fuel stack (.after true)
  | fuel + 1, stack, .after comma => do
    let frame := stack.headD 91
    match ← ws with
    | none => peekFail (if frame = 91 then .eofInList else .eofInObject)
    | some c =>
      if c = 44 ∧ comma then
        eat
        if frame = 123 then skipKey
        skipLoop fuel stack .value
      else if (c = 93 ∧ frame = 91) ∨ (c = 125 ∧ frame = 123) then
        eat
        let rest := stack.drop 1
        if rest.isEmpty then pure () else skipLoop fuel rest (.after true)
      else if comma then
        peekFail (if frame = 91 then .expectedListCommaOrEnd else .expectedObjectCommaOrEnd)
      else
        if frame = 123 then skipKey
        skipLoop fuel stack .value

def skipValue : Read Unit := do
  skipLoop (2 * (← read).size + 4) [] .value

-- Runs a reader on a whole text: after the value only blanks may follow.
def Read.runText {α : Type} (m : Read α) (text : String) : Except ReadError α :=
  let r : Read α := do
    let a ← m
    match ← ws with
    | some _ => peekFail .trailingCharacters
    | none => pure a
  (((r.run).run 0).run text.toUTF8).1

end RouteWatch.Wire
