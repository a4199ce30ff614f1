-- Text inside JSON quotes, as this program writes it: a quote and a backslash are escaped, control
-- characters below U+0020 take their short escape (`\b`, `\t`, `\n`, `\f`, `\r`) or a `\u00XX`
-- escape in lowercase hex, and every other character is written as it is.
namespace RouteWatch.Wire

-- The lowercase hex digit of `n < 16`.
def hexDigit (n : Nat) : Char :=
  if n < 10 then Char.ofNat (48 + n) else Char.ofNat (87 + n)

-- How one character is written inside quotes.
def escapeChar (c : Char) : List Char :=
  if c = '"' then ['\\', '"']
  else if c = '\\' then ['\\', '\\']
  else if c = '\n' then ['\\', 'n']
  else if c = '\r' then ['\\', 'r']
  else if c = '\t' then ['\\', 't']
  else if c.toNat = 8 then ['\\', 'b']
  else if c.toNat = 12 then ['\\', 'f']
  else if c.toNat < 0x20 then ['\\', 'u', '0', '0', hexDigit (c.toNat / 16), hexDigit (c.toNat % 16)]
  else [c]

def quote (s : String) : String :=
  String.ofList ('"' :: s.toList.flatMap escapeChar ++ ['"'])

-- An object of string members, written in the given order.
def objectText (members : List (String × String)) : String :=
  "\x7b" ++ ",".intercalate (members.map fun (k, v) => quote k ++ ":" ++ v) ++ "\x7d"

example : quote "a\"b" = "\"a\\\"b\"" ∧ quote "c\\d" = "\"c\\\\d\"" := by
  decide

end RouteWatch.Wire
