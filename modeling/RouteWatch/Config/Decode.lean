import RouteWatch.Config.Value
import RouteWatch.Settings
import RouteWatch.Text.Debug

-- Settings read out of the merged setting values, and the words of a refusal.
namespace RouteWatch.Config

open Number

inductive Found where
  | bool (b : Bool)
  | int (i : Int)
  | uint (n : Nat)
  | float (x : Double)
  | str (s : String)
  | unit
  | seq
  | map
  deriving Repr

-- How a refusal names what it found.
def Found.text : Found → String
  | .bool b => "boolean `" ++ toString b ++ "`"
  | .int i => "64-bit integer `" ++ toString i ++ "`"
  | .uint n => "64-bit unsigned integer `" ++ toString n ++ "`"
  | .float x => "floating point `" ++ x.display ++ "`"
  | .str s => "string " ++ Text.debugQuote s
  | .unit => "unit value"
  | .seq => "sequence"
  | .map => "map"

-- Why the settings could not be read.
inductive ConfigError where
  -- A value of the wrong type: where it came from, what it was, what was wanted, and the key
  -- it was under.
  | wrongType (origin : Option String) (found : Found) (expected : String) (key : Option String)
  -- A refusal given as its text.
  | message (text : String)
  -- A file that is no TOML document: the refusal and the file.
  | badFile (cause : String) (path : String)
  deriving Repr

namespace ConfigError

def text : ConfigError → String
  | .wrongType origin found expected key =>
    "invalid type: " ++ found.text ++ ", expected " ++ expected ++
      (match key with | some k => " for key `" ++ k ++ "`" | none => "") ++
      (match origin with | some o => " in " ++ o | none => "")
  | .message t => t
  | .badFile cause path => cause ++ " in " ++ path

-- Puts `segment` in front of the key of a wrong type, with a dot before a name.
def prepend (segment : String) (dot : Bool) : ConfigError → ConfigError
  | .wrongType origin found expected key =>
    let rest := key.getD ""
    let sep := if dot && !rest.isEmpty && !rest.startsWith "[" then "." else ""
    .wrongType origin found expected (some (segment ++ sep ++ rest))
  | e => e

-- The refusal as found under key `k`.
def underKey (k : String) (e : ConfigError) : ConfigError :=
  e.prepend k true

-- The refusal as found at position `i` of a list.
def atIndex (i : Nat) (e : ConfigError) : ConfigError :=
  e.prepend ("[" ++ toString i ++ "]") false

end ConfigError

-- Reads an unsigned 64-bit number: an optional plus and digits.
def parseU64 (s : String) : Option Nat :=
  let ds := match s.toList with
    | '+' :: rest => rest
    | cs => cs
  if ds.isEmpty || !ds.all Char.isDigit then none
  else
    let v := ds.foldl (fun n c => 10 * n + (c.toNat - 48)) 0
    if v ≤ Double.u64Max then some v else none

-- A value as an unsigned 64-bit number.
def intoNat : Value → Except ConfigError Nat
  | .int o i =>
    if 0 ≤ i then .ok i.toNat
    else .error (.wrongType o (.int i) "an unsigned 64 bit or less integer" none)
  | .str o s =>
    let l := Text.toLower s
    if l = "true" ∨ l = "on" ∨ l = "yes" then .ok 1
    else if l = "false" ∨ l = "off" ∨ l = "no" then .ok 0
    else match parseU64 s with
      | some n => .ok n
      | none => .error (.wrongType o (.str s) "an integer" none)
  | .bool _ b => .ok (if b then 1 else 0)
  | .float _ x => .ok x.roundToNat
  | .nil o => .error (.wrongType o .unit "an integer" none)
  | .table o _ => .error (.wrongType o .map "an integer" none)
  | .array o _ => .error (.wrongType o .seq "an integer" none)

-- A value as a port: an unsigned number below 65536.
def intoPort (v : Value) : Except ConfigError Nat := do
  let n ← intoNat v
  if n ≤ 65535 then pure n
  else throw (.wrongType none (.uint n) "an unsigned 16 bit integer" none)

def intoText : Value → Except ConfigError String
  | .str _ s => .ok s
  | .bool _ b => .ok (toString b)
  | .int _ i => .ok (toString i)
  | .float _ x => .ok x.display
  | .nil o => .error (.wrongType o .unit "a string" none)
  | .table o _ => .error (.wrongType o .map "a string" none)
  | .array o _ => .error (.wrongType o .seq "a string" none)

-- The log format named `s`, in any case.
def formatNamed (s : String) : Except ConfigError LogFormat :=
  let l := Text.toLower s
  if l = "compact" then .ok .compact
  else if l = "json" then .ok .json
  else .error (.message ("enum LogFormat does not have variant constructor " ++ s))

-- A value as a log format: its name, or a table whose one key is the name.
def intoFormat : Value → Except ConfigError LogFormat
  | .str _ s => formatNamed s
  | .table _ [(k, _)] => formatNamed k
  | _ => .error (.message
      "value of enum LogFormat should be represented by either string or table with exactly one key")

-- How a refusal of a group names a value that is no group.
def groupFound : Value → String
  | .nil _ => "unit value"
  | .bool _ b => "boolean `" ++ toString b ++ "`"
  | .int _ i => "integer `" ++ toString i ++ "`"
  | .float _ x => "floating point `" ++ x.displayWithPoint ++ "`"
  | .str _ s => "string " ++ Text.debugQuote s
  | .table _ _ => "map"
  | .array _ _ => "sequence"

-- A field read out of a group.
inductive Got where
  | nat (n : Nat)
  | text (s : String)
  | format (f : LogFormat)
  | group (fields : List Got)
  deriving Repr

abbrev FieldReader := Value → Except ConfigError Got

-- "n elements", with the singular for one.
def elementCount (n : Nat) : String :=
  toString n ++ (if n = 1 then " element" else " elements")

-- Reads the fields of group `name`: from a table by name (every field present, unknown
-- entries ignored), or from a list by position.
def readGroup (name : String) (fields : List (String × FieldReader)) :
    Value → Except ConfigError (List Got)
  | .table _ entries => do
    let read ← entries.foldlM (fun (acc : List (String × Got)) (e : String × Value) =>
      match fields.lookup e.1 with
      | some reader => do
        let g ← (reader e.2).mapError (ConfigError.underKey e.1)
        pure (acc ++ [(e.1, g)])
      | none => pure acc) []
    fields.mapM fun (f, _) =>
      match read.lookup f with
      | some g => pure g
      | none => throw (.message ("missing field `" ++ f ++ "`"))
  | .array _ items =>
    fields.zipIdx.mapM fun ((_, reader), i) =>
      match items[i]? with
      | some x => (reader x).mapError (ConfigError.atIndex i)
      | none => throw (.message ("invalid length " ++ toString i ++ ", expected struct " ++ name ++
          " with " ++ elementCount fields.length))
  | v => throw (.message ("invalid type: " ++ groupFound v ++ ", expected struct " ++ name))

def groupField (name : String) (fields : List (String × FieldReader)) : FieldReader :=
  fun v => Got.group <$> readGroup name fields v

-- The fields of the settings, group by group.
def settingsFields : List (String × FieldReader) :=
  [("scheduler", groupField "SchedulerSettings" [("interval_ms", fun v => Got.nat <$> intoNat v)]),
   ("monitoring_manager", groupField "MonitoringManagerSettings"
      [("host", fun v => Got.text <$> intoText v), ("port", fun v => Got.nat <$> intoPort v),
       ("timeout_ms", fun v => Got.nat <$> intoNat v)]),
   ("logging", groupField "LoggingSettings"
      [("level", fun v => Got.text <$> intoText v), ("format", fun v => Got.format <$> intoFormat v)]),
   ("shutdown_timeout_ms", fun v => Got.nat <$> intoNat v)]

-- The settings held by the merged values.
def readSettings (root : Value) : Except ConfigError Settings := do
  match ← readGroup "Settings" settingsFields root with
  | [.group [.nat interval], .group [.text host, .nat port, .nat timeout],
      .group [.text level, .format format], .nat shutdown] =>
    pure { intervalMs := interval, host := host, port := port, timeoutMs := timeout,
           level := level, format := format, shutdownTimeoutMs := shutdown }
  | _ => throw (.message "invalid settings")

end RouteWatch.Config
