import RouteWatch.Text.Unprintable

-- Text written as a quoted literal for messages: quote and backslash escaped, tab, newline,
-- carriage return and NUL by their short escapes, and the characters of `unprintable` as
-- `\u{hex}` with lowercase digits and no leading zeros. Everything else stands as it is.
namespace RouteWatch.Text

-- The lowercase hex digits of `n`, no leading zeros.
def hexDigits (n : Nat) : String :=
  String.ofList (Nat.toDigits 16 n)

-- How one character is written inside the quotes.
def debugChar (c : Char) : String :=
  if c = '"' then "\\\""
  else if c = '\\' then "\\\\"
  else if c = '\t' then "\\t"
  else if c = '\n' then "\\n"
  else if c = '\r' then "\\r"
  else if c.toNat = 0 then "\\0"
  else if unprintable c then "\\u\x7b" ++ hexDigits c.toNat ++ "\x7d"
  else String.singleton c

def debugQuote (s : String) : String :=
  "\"" ++ String.join (s.toList.map debugChar) ++ "\""

example : debugQuote "\"\n" = "\"\\\"\\n\"" := by
  decide

end RouteWatch.Text
