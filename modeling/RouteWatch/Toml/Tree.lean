import RouteWatch.Number.Double

-- The values of a TOML document and the rules for building its tables.
namespace RouteWatch.Toml

open Number

-- A value as written in a document. An inline table keeps whether it was made by a dotted key
-- (`implicit`, `dotted`), which decides whether a later key may extend it.
inductive TValue where
  | str (s : String)
  | int (i : Int)
  | float (x : Double)
  | bool (b : Bool)
  | datetime (text : String)
  | array (items : List TValue)
  | inline (implicit dotted : Bool) (entries : List (String × TValue))
  deriving Repr

-- How messages name the kind of a value.
def TValue.typeName : TValue → String
  | .str _ => "string"
  | .int _ => "integer"
  | .float _ => "float"
  | .bool _ => "boolean"
  | .datetime _ => "datetime"
  | .array _ => "array"
  | .inline _ _ _ => "inline table"

def isBareKeyByte (c : UInt8) : Bool :=
  (65 ≤ c && c ≤ 90) || (97 ≤ c && c ≤ 122) || (48 ≤ c && c ≤ 57) || c == 45 || c == 95

-- How a character is written inside a basic string.
def basicEscape (c : Char) : String :=
  if c.toNat = 8 then "\\b"
  else if c = '\t' then "\\t"
  else if c = '\n' then "\\n"
  else if c.toNat = 12 then "\\f"
  else if c = '\r' then "\\r"
  else if c = '"' then "\\\""
  else if c = '\\' then "\\\\"
  else if c.toNat ≤ 0x1f ∨ c.toNat = 0x7f then
    let h := Nat.toDigits 16 c.toNat
    "\\u" ++ String.ofList (List.replicate (4 - h.length) '0' ++ h.map Char.toUpper)
  else String.singleton c

-- A key as a message writes it: bare when it can be, else quoted. A key that holds a
-- backslash or a quote, and no apostrophe and no control character other than the tab, goes
-- between apostrophes as it is; any other goes between quotes with escapes.
def keyText (k : String) : String :=
  if !k.isEmpty && k.toUTF8.toList.all isBareKeyByte then k
  else
    let cs := k.toList
    let literal := (cs.contains '\\' || cs.contains '"') && !cs.contains '\'' &&
      !cs.any (fun c => (c.toNat ≤ 0x1f && c ≠ '\t') || c.toNat = 0x7f)
    if literal then "'" ++ k ++ "'"
    else "\"" ++ String.join (cs.map basicEscape) ++ "\""

-- The refusal of a key given twice; `table` is where it was, when known.
def duplicateKey (key : String) (table : Option (List String)) : String :=
  match table with
  | none => "duplicate key `" ++ key ++ "`"
  | some [] => "duplicate key `" ++ key ++ "` in document root"
  | some path => "duplicate key `" ++ key ++ "` in table `" ++ ".".intercalate path ++ "`"

-- The refusal of a dotted key that runs into a value.
def extendWrongType (path : List String) (actual : String) : String :=
  "dotted key `" ++ ".".intercalate path ++ "` attempted to extend non-table type (" ++
    actual ++ ")"

-- Puts `v` under `k`, in place when `k` is there, else at the end.
def putEntry {α : Type} (entries : List (String × α)) (k : String) (v : α) : List (String × α) :=
  if entries.any (·.1 = k) then entries.map fun e => if e.1 = k then (k, v) else e
  else entries ++ [(k, v)]

-- Runs `f` on the entries of the inline table at `rest` below an inline table's `entries`,
-- making dotted tables on the way; `seen` is the part of the path walked.
def descendInline {β : Type}
    (f : Bool → List (String × TValue) → Except String (List (String × TValue) × β))
    (seen : List String) : List String → Bool → List (String × TValue) →
      Except String (List (String × TValue) × β)
  | [], dotted, entries => f dotted entries
  | k :: rest, _, entries => do
    let here := seen ++ [k]
    match entries.lookup k with
    | none =>
      let (inner, b) ← descendInline f here rest true []
      return (putEntry entries k (.inline true true inner), b)
    | some (.inline implicit dotted inner) =>
      if !implicit then throw (duplicateKey k none)
      let (inner, b) ← descendInline f here rest dotted inner
      return (putEntry entries k (.inline implicit dotted inner), b)
    | some v => throw (extendWrongType here v.typeName)

-- Adds one pair of an inline table: its dotted path, key and value.
def addInlinePair (entries : List (String × TValue)) (path : List String) (key : String)
    (v : TValue) : Except String (List (String × TValue)) := do
  let (entries, ()) ← descendInline (fun dotted inner => do
      if dotted = path.isEmpty then throw (duplicateKey key none)
      if inner.any (·.1 = key) then throw (duplicateKey key none)
      return (inner ++ [(key, v)], ())) [] path false entries
  return entries

-- An inline table from its pairs, each a dotted key and a value.
def inlineOfPairs (pairs : List (List String × TValue)) : Except String TValue := do
  let entries ← pairs.foldlM (fun entries (p : List String × TValue) =>
    match p.1.reverse with
    | key :: pathRev => addInlinePair entries pathRev.reverse key p.2
    | [] => pure entries) []
  return .inline false false entries

end RouteWatch.Toml
