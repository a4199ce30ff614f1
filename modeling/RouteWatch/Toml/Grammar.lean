import RouteWatch.Toml.Scan
import RouteWatch.Toml.Tree

-- The grammar of TOML 1.0, rule by rule, over the scanner.
namespace RouteWatch.Toml

open Number

-- ## Blanks, newlines and comments

def isBlankByte (c : UInt8) : Bool :=
  c == 32 || c == 9

def ws : Scan Unit :=
  skipWhile isBlankByte

def isCommentByte (c : UInt8) : Bool :=
  c == 9 || (32 ≤ c && c ≤ 126) || 128 ≤ c

def comment : Scan Unit := do
  byte 35
  skipWhile isCommentByte

-- A line feed, or a carriage return and a line feed. The first byte is taken before it is
-- looked at, so a failure stands after it: after a lone carriage return, or after a byte that
-- starts no newline.
def newline : Scan Unit := do
  let c ← anyByte
  if c == 10 then pure ()
  else if c == 13 then byte 10
  else miss

-- The end of a line or of the input.
def lineEnding : Scan Unit :=
  firstOf [newline, atEnd]

-- What may end a line after its content: blanks, a comment, the end of the line.
def lineTrailing : Scan Unit := do
  ws
  let _ ← opt comment
  lineEnding

-- Blanks, newlines and comments, at most `fuel` rounds of them. A round takes blanks and
-- then, by the next byte, a comment and the newline that must end it, or a newline; it fails
-- where that newline was refused, so a comment at the end of the input or a carriage return
-- alone is an error here.
def wsCommentNewlineFor : Nat → Scan Unit
  | 0 => pure ()
  | fuel + 1 => do
    let start ← here
    ws
    let next ← peekByte
    if next == some 35 then do comment; newline
    else if next == some 10 || next == some 13 then newline
    else return ()
    if (← here) = start then return () else wsCommentNewlineFor fuel

-- Blanks, newlines and comments, maybe none, as between the elements of an array. Every
-- round but the last takes a byte, so the length of the input bounds the rounds.
def wsCommentNewline : Scan Unit := do
  wsCommentNewlineFor ((← read).size + 1)

def sliceFrom (start : Nat) : Scan String := do
  return textOf ((← read).extract start (← here))

-- ## Strings

def isHexByte (c : UInt8) : Bool :=
  (48 ≤ c && c ≤ 57) || (65 ≤ c && c ≤ 70) || (97 ≤ c && c ≤ 102)

def hexValue (bs : ByteArray) : Nat :=
  bs.toList.foldl (fun n c =>
    16 * n + (if c ≤ 57 then c.toNat - 48 else if c ≤ 70 then c.toNat - 55 else c.toNat - 87)) 0

-- The character of a hex escape of `n` digits; a surrogate or a number beyond the code points
-- is out of range.
def hexEscape (n : Nat) : Scan Char :=
  refine (do
      let start ← here
      let ds ← takeWhile isHexByte 0 (some n)
      if ds.size = n then pure ds else reset start; miss)
    fun ds =>
      let v := hexValue ds
      if v < 0xD800 ∨ (0xDFFF < v ∧ v < 0x110000) then .ok (Char.ofNat v)
      else .error "value is out of range"

def hints {α : Type} (hs : List Hint) (m : Scan α) : Scan α :=
  tryCatch m fun f => throw { f with hints := f.hints ++ hs }

def escapeChar : Scan Char := do
  let c ← anyByte
  if c = 98 then pure (Char.ofNat 8)
  else if c = 102 then pure (Char.ofNat 12)
  else if c = 110 then pure '\n'
  else if c = 114 then pure '\r'
  else if c = 116 then pure '\t'
  else if c = 117 then label "unicode 4-digit hex code" (cut (hexEscape 4))
  else if c = 85 then label "unicode 8-digit hex code" (cut (hexEscape 8))
  else if c = 92 then pure '\\'
  else if c = 34 then pure '"'
  else
    hints ([.label "escape sequence"] ++
      ["`b`", "`f`", "`n`", "`r`", "`t`", "`u`", "`U`", "`\\`", "`\"`"].map Hint.expected)
      (cut miss)

def escaped : Scan String := do
  byte 92
  return String.singleton (← escapeChar)

def isBasicByte (c : UInt8) : Bool :=
  c == 32 || c == 9 || c == 0x21 || (0x23 ≤ c && c ≤ 0x5B) || (0x5D ≤ c && c ≤ 0x7E) || 0x80 ≤ c

-- A run of plain characters or one escape of a basic string.
def basicChars : Scan String :=
  firstOf [textOf <$> takeWhile isBasicByte 1 none, escaped]

def basicString : Scan String := do
  byte 34
  let parts ← many basicChars
  label "basic string" (cut (byte 34))
  return String.join parts

def isLiteralByte (c : UInt8) : Bool :=
  c == 9 || (0x20 ≤ c && c ≤ 0x26) || (0x28 ≤ c && c ≤ 0x7E) || 0x80 ≤ c

-- A string between apostrophes, taken as written.
def literalString : Scan String :=
  label "literal string" do
    byte 39
    let bs ← cut (takeWhile isLiteralByte 0 none)
    cut (byte 39)
    return textOf bs

-- A backslash at the end of a line: it and the blanks and newlines after it are dropped.
def escapedNewline : Scan String := do
  let _ ← many1 (do
    byte 92
    ws
    newline
    let _ ← many (firstOf [newline, do let _ ← takeWhile isBlankByte 1 none]))
  return ""

-- A piece of a multi-line basic string: plain characters, an escaped line end, an escape or
-- a newline.
def mlBasicContent : Scan String :=
  firstOf [textOf <$> takeWhile isBasicByte 1 none, escapedNewline, escaped,
    do newline; pure "\n"]

-- One or two quotes inside a multi-line string, when `term` follows them.
def innerQuotes (q : UInt8) (term : Scan Unit) : Scan String := do
  let start ← here
  let two ← opt (do byte q; byte q; lookAhead term)
  match two with
  | some () => return String.ofList [Char.ofNat q.toNat, Char.ofNat q.toNat]
  | none =>
    reset start
    byte q
    lookAhead term
    return String.singleton (Char.ofNat q.toNat)

def noneOf (q : UInt8) : Scan Unit := do
  let _ ← oneOf (· != q)

def mlBasicRun : Scan String := do
  return String.join (← many mlBasicContent)

-- Quotes and the content after them, as long as quotes are followed by content; quotes not
-- followed by content end the loop without being given back.
def mlBasicQuoted : Nat → String → Scan String
  | 0, acc => return acc
  | fuel + 1, acc => do
    match ← opt (innerQuotes 34 (noneOf 34)) with
    | none => return acc
    | some q =>
      match ← opt mlBasicContent with
      | none => return acc
      | some c => mlBasicQuoted fuel (acc ++ q ++ c ++ (← mlBasicRun))

def mlBasicBody : Scan String := do
  let first ← mlBasicRun
  let body ← mlBasicQuoted ((← read).size + 1) first
  match ← opt (innerQuotes 34 (tag "\"\"\"")) with
  | some q => return body ++ q
  | none => return body

-- A string between triple double quotes; a newline right after the opening is dropped.
def mlBasicString : Scan String :=
  label "multiline basic string" do
    tag "\"\"\""
    let _ ← opt newline
    let body ← cut mlBasicBody
    cut (tag "\"\"\"")
    return body

-- A piece of a multi-line literal string: a character or a newline.
def mlLiteralContent : Scan Unit :=
  firstOf [do let _ ← oneOf isLiteralByte, newline]

-- A string between triple apostrophes, taken as written but for line ends.
def mlLiteralString : Scan String :=
  label "multiline literal string" do
    tag "'''"
    let _ ← opt newline
    let start ← here
    cut do
      let _ ← many mlLiteralContent
      let _ ← many (do let _ ← innerQuotes 39 (noneOf 39); let _ ← many1 mlLiteralContent)
      let _ ← opt (innerQuotes 39 (tag "'''"))
    let body ← sliceFrom start
    cut (tag "'''")
    return body.replace "\r\n" "\n"

def string : Scan String :=
  firstOf [mlBasicString, basicString, mlLiteralString, literalString]

-- ## Keys

-- The longest dotted key there may be.
def keyDepthLimit : Nat := 80

-- A key of one part: bare, or quoted.
def simpleKey : Scan String := do
  match ← peekByte with
  | some 34 => basicString
  | some 39 => literalString
  | some _ => textOf <$> takeWhile isBareKeyByte 1 none
  | none => miss

def key : Scan (List String) :=
  refine (label "key" (sepBy1 (do ws; let k ← simpleKey; ws; pure k) (byte 46)))
    fun parts =>
      if parts.length ≥ keyDepthLimit then .error "recursion limit exceeded" else .ok parts

-- ## Numbers, booleans, dates

def isDigitByte (c : UInt8) : Bool :=
  48 ≤ c && c ≤ 57

def digit : Scan Unit := do
  let _ ← oneOf isDigitByte

-- More digits, each maybe after one underscore.
def digitsAfter (isDig : UInt8 → Bool) : Scan Unit := do
  let _ ← many (firstOf [
    do let _ ← oneOf isDig,
    do byte 95; expect "digit" (cut (do let _ ← oneOf isDig))])

-- A decimal integer as written: a sign, then a zero alone or digits not starting with zero.
def decInt : Scan String :=
  label "integer" do
    let start ← here
    let _ ← opt (oneOf fun c => c == 43 || c == 45)
    firstOf [
      do let _ ← oneOf (fun c => 49 ≤ c && c ≤ 57); digitsAfter isDigitByte,
      digit]
    sliceFrom start

-- Reads a signed 64-bit integer in base 10 from a sign and digits.
def parseI64 (s : String) : Except String Int :=
  let cs := s.toList
  let (neg, ds) := match cs with
    | '-' :: rest => (true, rest)
    | '+' :: rest => (false, rest)
    | _ => (false, cs)
  let v : Int := ds.foldl (fun n c => 10 * n + (c.toNat - 48 : Nat)) 0
  let v := if neg then -v else v
  if v > 9223372036854775807 then .error "number too large to fit in target type"
  else if v < -9223372036854775808 then .error "number too small to fit in target type"
  else .ok v

-- Reads a 64-bit integer from digits in base `radix`.
def parseRadix (radix : Nat) (s : String) : Except String Int :=
  let v := s.toUTF8.toList.foldl (fun n c =>
    radix * n + (if c ≤ 57 then c.toNat - 48 else if c ≤ 70 then c.toNat - 55 else c.toNat - 87)) 0
  if v > 9223372036854775807 then .error "number too large to fit in target type" else .ok v

-- An integer with a prefix and digits of a base, named `name`.
def prefixedInt (pre : String) (isDig : UInt8 → Bool) (name : String) : Scan String :=
  label name do
    tag pre
    let start ← here
    cut do
      let _ ← oneOf isDig
      digitsAfter isDig
    sliceFrom start

-- A decimal integer and its value; one beyond 64 bits is refused where it starts.
def decInteger : Scan Int := do
  let start ← here
  let s ← decInt
  match parseI64 (s.replace "_" "") with
  | .ok v => return v
  | .error cause => reset start; cut (refuse cause)

def integer : Scan Int := do
  let b ← read
  let i ← here
  let two := if i + 2 ≤ b.size then textOf (b.extract i (i + 2)) else ""
  let radix (pre : String) (r : Nat) (isDig : UInt8 → Bool) (name : String) : Scan Int :=
    cut (refine (prefixedInt pre isDig name) fun s => parseRadix r (s.replace "_" ""))
  if two = "0x" then radix "0x" 16 isHexByte "hexadecimal integer"
  else if two = "0o" then radix "0o" 8 (fun c => 48 ≤ c && c ≤ 55) "octal integer"
  else if two = "0b" then radix "0b" 2 (fun c => c == 48 || c == 49) "binary integer"
  else decInteger

-- Digits that may start with zero.
def zeroPrefixableInt : Scan Unit := do
  digit
  digitsAfter isDigitByte

def exponentPart : Scan Unit := do
  let _ ← oneOf fun c => c == 101 || c == 69
  let _ ← opt (oneOf fun c => c == 43 || c == 45)
  cut zeroPrefixableInt

def fractionPart : Scan Unit := do
  byte 46
  expect "digit" (cut zeroPrefixableInt)

-- A float as written with digits: an integer part, then an exponent or a fraction.
def floatText : Scan String := do
  let start ← here
  let _ ← decInt
  firstOf [exponentPart, do fractionPart; let _ ← opt exponentPart]
  sliceFrom start

-- `inf` or `nan` with a sign.
def specialFloat : Scan Double := do
  let sign ← opt (oneOf fun c => c == 43 || c == 45)
  let neg := sign = some 45
  firstOf [do tag "inf"; pure (.infinite neg), do tag "nan"; pure .nan]

-- A float; a value beyond the largest double is refused where it starts.
def float : Scan Double :=
  label "floating-point number" (firstOf [
    do
      let start ← here
      let s ← floatText
      match Double.parse (s.replace "_" "") with
      | some (.infinite false) => reset start; cut miss
      | some d => pure d
      | none => reset start; cut miss,
    specialFloat])

def fixedDigits (n : Nat) : Scan Nat := do
  let ds ← takeWhile isDigitByte n (some n)
  return ds.toList.foldl (fun v c => 10 * v + (c.toNat - 48)) 0

def rangedDigits (n lo hi : Nat) : Scan Nat :=
  refine (fixedDigits n) fun v =>
    if lo ≤ v ∧ v ≤ hi then .ok v else .error "value is out of range"

def daysInMonth (y m : Nat) : Nat :=
  if m = 2 then (if y % 4 = 0 ∧ (y % 100 ≠ 0 ∨ y % 400 = 0) then 29 else 28)
  else if m = 4 ∨ m = 6 ∨ m = 9 ∨ m = 11 then 30
  else 31

def pad (width n : Nat) : String :=
  let ds := toString n
  String.ofList (List.replicate (width - ds.length) '0') ++ ds

-- A date `YYYY-MM-DD`, as text.
def fullDate : Scan String := do
  let y ← fixedDigits 4
  byte 45
  let m ← cut (rangedDigits 2 1 12)
  cut (byte 45)
  let dayStart ← here
  let d ← cut (rangedDigits 2 1 31)
  if daysInMonth y m < d then
    reset dayStart
    cut (refuse "value is out of range")
  return pad 4 y ++ "-" ++ pad 2 m ++ "-" ++ pad 2 d

-- Fractional seconds: a point and digits, of which nine count.
def secondFraction : Scan Nat := do
  byte 46
  let ds ← takeWhile isDigitByte 1 none
  let kept := ds.toList.take 9
  let v := kept.foldl (fun v c => 10 * v + (c.toNat - 48)) 0
  return v * Nat.pow 10 (9 - kept.length)

-- The fraction of a second as written back: nine digits without the trailing zeros.
def fractionText (nanos : Nat) : String :=
  if nanos = 0 then ""
  else
    let ds := (pad 9 nanos).toList
    "." ++ String.ofList (ds.reverse.dropWhile (· = '0')).reverse

-- A time `HH:MM:SS` with an optional fraction, as text.
def partialTime : Scan String := do
  let h ← rangedDigits 2 0 23
  byte 58
  cut do
    let mi ← rangedDigits 2 0 59
    byte 58
    let s ← rangedDigits 2 0 60
    let ns ← opt secondFraction
    return pad 2 h ++ ":" ++ pad 2 mi ++ ":" ++ pad 2 s ++ fractionText (ns.getD 0)

-- An offset from UTC: `Z`, or a sign, hours and minutes.
def timeOffset : Scan String :=
  label "time offset" (firstOf [
    do let _ ← oneOf (fun c => c == 90 || c == 122); pure "Z",
    do
      let sign ← oneOf fun c => c == 43 || c == 45
      let (h, mi) ← cut do
        let h ← rangedDigits 2 0 23
        byte 58
        let mi ← rangedDigits 2 0 59
        pure (h, mi)
      let total := h * 60 + mi
      let neg := sign = 45 ∧ total ≠ 0
      pure ((if neg then "-" else "+") ++ pad 2 (total / 60) ++ ":" ++ pad 2 (total % 60))])

-- A date, a date and time with or without offset, or a time; as text.
def dateTime : Scan String :=
  firstOf [
    label "date-time" do
      let d ← fullDate
      let rest ← opt do
        let _ ← oneOf fun c => c == 84 || c == 116 || c == 32
        let t ← partialTime
        let o ← opt timeOffset
        pure (t, o)
      match rest with
      | none => pure d
      | some (t, o) => pure (d ++ "T" ++ t ++ o.getD ""),
    label "time" partialTime]

-- ## Values

-- Hints for a value that is no value: it should have been a string.
def asString {α : Type} (m : Scan α) : Scan α :=
  hints [.label "string", .expected "`\"`", .expected "`'`"] m

-- The elements of an array given how to read one, after its opening bracket.
def arrayRest (elem : Scan TValue) : Scan TValue := do
  let items ← cut do
    let vs ← opt do
      let vs ← sepBy1 (do wsCommentNewline; let v ← elem; wsCommentNewline; pure v) (byte 44)
      let _ ← opt (byte 44)
      pure vs
    wsCommentNewline
    pure (vs.getD [])
  hints [.label "array", .expected "`]`"] (cut (byte 93))
  return .array items

-- A pair of an inline table: its dotted key and value.
def inlinePair (val : Scan TValue) : Scan (List String × TValue) := do
  let k ← key
  cut do
    hints [.expected "`.`", .expected "`=`"] (byte 61)
    ws
    let v ← val
    ws
    pure (k, v)

-- The pairs of an inline table given how to read a value, after its opening brace.
def inlineRest (val : Scan TValue) : Scan TValue := do
  let t ← cut (refine (do
      let pairs ← sepBy (inlinePair val) (byte 44)
      ws
      pure pairs) inlineOfPairs)
  hints [.label "inline table", .expected "`\x7d`"] (cut (byte 125))
  return t

-- How deep arrays and inline tables may nest.
def nestingLimit : Nat := 80

-- A value; `depth` counts the arrays and inline tables it may still open.
def value : Nat → Scan TValue
  | 0 => miss
  | depth + 1 => do
    match ← peekByte with
    | none => miss
    | some c =>
      if c = 34 ∨ c = 39 then .str <$> string
      else if c = 91 ∨ c = 123 then
        if depth = 0 then cut (refuse "recursion limit exceeded")
        else do
          eat
          if c = 91 then arrayRest (value depth) else inlineRest (value depth)
      else if c = 43 ∨ c = 45 ∨ isDigitByte c then
        firstOf [.datetime <$> dateTime, .float <$> float, .int <$> integer]
      else if c = 95 then expect "leading digit" (.int <$> integer)
      else if c = 46 then expect "leading digit" (.float <$> float)
      else if c = 116 then
        asString do let _ ← lookAhead (byte 116); cut (tag "true"); pure (.bool true)
      else if c = 102 then
        asString do let _ ← lookAhead (byte 102); cut (tag "false"); pure (.bool false)
      else if c = 105 then asString do tag "inf"; pure (.float (.infinite false))
      else if c = 110 then asString do tag "nan"; pure (.float .nan)
      else asString miss
where
  eat : Scan Unit := modify (· + 1)

-- A key-value pair of a table: its dotted key, and its value up to the end of the line.
def keyval : Scan (List String × TValue) := do
  let k ← key
  cut do
    hints [.expected "`.`", .expected "`=`"] (byte 61)
    ws
    let v ← value nestingLimit
    hints [.expected "newline", .expected "`#`"] lineTrailing
    pure (k, v)

end RouteWatch.Toml
