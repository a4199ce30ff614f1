import RouteWatch.Config.Value

-- Settings from environment variables.
namespace RouteWatch.Config

open Number

-- The origin of values from the environment.
def environmentOrigin : String := "the environment"

-- The prefix of the variables that hold settings.
def envPrefix : String := "routing"

-- The separator of the parts of a variable's name.
def envSeparator : String := "__"

-- Reads a signed 64-bit integer: an optional sign and at least one digit, nothing else.
def parseInt64 (s : String) : Option Int :=
  let cs := s.toList
  let (neg, ds) := match cs with
    | '-' :: rest => (true, rest)
    | '+' :: rest => (false, rest)
    | _ => (false, cs)
  if ds.isEmpty || !ds.all Char.isDigit then none
  else
    let v : Int := ds.foldl (fun n c => 10 * n + (c.toNat - 48 : Nat)) 0
    let v := if neg then -v else v
    if v < -9223372036854775808 ∨ 9223372036854775807 < v then none else some v

-- The value of a variable's text.
def envValue (text : String) : Value :=
  let lower := Text.toLower text
  if lower = "true" then .bool (some environmentOrigin) true
  else if lower = "false" then .bool (some environmentOrigin) false
  else match parseInt64 text with
    | some i => .int (some environmentOrigin) i
    | none =>
      match Double.parse text with
      | some x => .float (some environmentOrigin) x
      | none => .str (some environmentOrigin) text

-- The layer of the environment: for each variable that holds a setting, its key and value.
def envLayer (vars : List (String × String)) : List (String × Value) :=
  let start := envPrefix ++ envSeparator
  vars.filterMap fun (name, text) =>
    if (Text.toLower name).startsWith start then
      -- the prefix is ASCII, so it takes as many characters of the name as it has
      let rest := (name.drop start.length).toString.replace envSeparator "."
      some (Text.toLower rest, envValue text)
    else none

-- The variables of an environment block: entries `NAME=VALUE` ended by zero bytes. An entry
-- with no `=` after its first character, or that is no UTF-8 text, is left out.
def varsOfBlock (block : ByteArray) : List (String × String) :=
  let entries := (block.toList.splitOn 0).filter (!·.isEmpty)
  entries.filterMap fun bytes =>
    match String.fromUTF8? (ByteArray.mk bytes.toArray) with
    | none => none
    | some entry =>
      match (entry.drop 1).toString.splitOn "=" with
      | rest :: v :: more =>
        some ((entry.take 1).toString ++ rest, "=".intercalate (v :: more))
      | _ => none

end RouteWatch.Config
