import RouteWatch.Number.Double
import RouteWatch.Toml.Document
import RouteWatch.Text.Lowercase

-- Setting values in layers, each remembering where it came from. Keys read from a file are
-- taken in lower case.
namespace RouteWatch.Config

open Number

-- A setting value; `origin` is the file it was read from, or the environment, when known.
inductive Value where
  | nil (origin : Option String)
  | bool (origin : Option String) (b : Bool)
  | int (origin : Option String) (i : Int)
  | float (origin : Option String) (x : Double)
  | str (origin : Option String) (s : String)
  | table (origin : Option String) (entries : List (String × Value))
  | array (origin : Option String) (items : List Value)
  deriving Repr

def Value.origin : Value → Option String
  | .nil o | .bool o _ | .int o _ | .float o _ | .str o _ | .table o _ | .array o _ => o

def Value.emptyTable : Value := .table none []

def entryOf (entries : List (String × Value)) (k : String) : Option Value :=
  (entries.find? (·.1 = k)).map (·.2)

-- Puts `v` under `k`, in place when `k` is there, else at the end.
def putValue (entries : List (String × Value)) (k : String) (v : Value) : List (String × Value) :=
  if entries.any (·.1 = k) then entries.map fun e => if e.1 = k then (k, v) else e
  else entries ++ [(k, v)]

mutual

-- Sets `v` under `id` in `root`, which becomes a table if it is not one. A table is merged
-- into what is there; anything else replaces it.
def setEntry (root : Value) (id : String) : Value → Value
  | .table _ incoming =>
    let (origin, entries) := match root with
      | .table ro es => (ro, es)
      | _ => (none, [])
    let target := (entryOf entries id).getD Value.emptyTable
    .table origin (putValue entries id (mergeEntries target incoming))
  | v =>
    let (origin, entries) := match root with
      | .table ro es => (ro, es)
      | _ => (none, [])
    .table origin (putValue entries id v)

def mergeEntries (target : Value) : List (String × Value) → Value
  | [] => target
  | (k, v) :: rest => mergeEntries (setEntry target k v) rest

end

-- A step of a key path after its first name.
inductive Step where
  | child (name : String)
  | index (i : Int)
  deriving DecidableEq, Repr

-- Why setting a value stops the program: growing an array or reaching into it failed.
inductive Crash where
  -- Slot `index` of an array of `len` items was asked for.
  | outOfBounds (len index : Nat)
  -- An array was asked to take more bytes than an address can span.
  | capacityOverflow
  -- An array was asked to take more bytes than there are; `bytes` were asked for.
  | outOfMemory (bytes : Nat)
  deriving DecidableEq, Repr

def Crash.message : Crash → String
  | .outOfBounds len index =>
    "index out of bounds: the len is " ++ toString len ++ " but the index is " ++ toString index
  | .capacityOverflow => "capacity overflow"
  | .outOfMemory bytes => "memory allocation of " ++ toString bytes ++ " bytes failed"

-- The number of 64-bit words: slots and counts of items are such words and wrap past it.
def wordRange : Nat := Nat.pow 2 64

-- The bytes one item of an array takes.
def itemBytes : Nat := 96

-- The most bytes an array may span: the greatest signed 64-bit word, less what the
-- alignment of an item may add.
def addressableBytes : Nat := Nat.pow 2 63 - 16

-- The most bytes an array is given.
def memoryBytes : Nat := Nat.pow 2 32

-- The slot an index names in an array of `len` items. A negative index counts from the end,
-- and one that reaches before the start wraps around to the top of the words.
def slotOf (i : Int) (len : Nat) : Nat :=
  if 0 ≤ i then i.toNat else (len + wordRange - i.natAbs) % wordRange

-- The items of an array made to reach slot `u`. When the slot is missing the array is resized
-- to `u + 1` items, padded with nils; that count wraps past the last word, so slot `2^64 - 1`
-- empties the array instead. Growing asks for at least twice the items there are, and at least
-- four, and fails when those items would not fit in memory.
def reach (items : List Value) (u : Nat) : Except Crash (List Value) :=
  if u < items.length then .ok items
  else
    let want := (u + 1) % wordRange
    if want ≤ items.length then .ok (items.take want)
    else
      let bytes := max (max (2 * items.length) want) 4 * itemBytes
      if addressableBytes < bytes then .error .capacityOverflow
      else if memoryBytes < bytes then .error (.outOfMemory bytes)
      else .ok (items ++ List.replicate (want - items.length) (.nil none))

-- The items of an array made to reach slot `u`, and the value in that slot.
def slotIn (items : List Value) (u : Nat) : Except Crash (List Value × Value) := do
  let items ← reach items u
  match items[u]? with
  | some v => .ok (items, v)
  | none => .error (.outOfBounds items.length u)

-- Applies `f` at the place the steps name below `v`, making that place as setting needs it:
-- a missing entry is made nil, a child of a non-table makes it a table, an index of a non-array
-- makes it an array, and an array is made to reach the index.
def modifyAt (f : Value → Except Crash Value) : List Step → Value → Except Crash Value
  | [], v => f v
  | .child k :: rest, v => do
    let (origin, entries) := match v with
      | .table o es => (o, es)
      | _ => (none, [])
    let inner ← modifyAt f rest ((entryOf entries k).getD (.nil none))
    return .table origin (putValue entries k inner)
  | .index i :: rest, v => do
    let (origin, items) := match v with
      | .array o xs => (o, xs)
      | _ => (none, [])
    let u := slotOf i items.length
    let (items, slot) ← slotIn items u
    let inner ← modifyAt f rest slot
    return .array origin (items.set u inner)

structure KeyPath where
  head : String
  steps : List Step
  deriving DecidableEq, Repr

def KeyPath.set (p : KeyPath) (root : Value) (v : Value) : Except Crash Value :=
  match p.steps.reverse with
  | [] => .ok (setEntry root p.head v)
  | last :: beforeRev =>
    let place := Step.child p.head :: beforeRev.reverse
    let apply (parent : Value) : Except Crash Value :=
      match last with
      | .child k => .ok (setEntry parent k v)
      | .index i => do
        let (origin, items) := match parent with
          | .array o xs => (o, xs)
          | _ => (none, [])
        let u := slotOf i items.length
        let (items, _) ← slotIn items u
        return .array origin (items.set u v)
    match root with
    | .table _ _ => modifyAt apply place root
    | _ => .ok root

-- Whether a character may stand in a name of a key path: ASCII letters and digits, `_`, `-`
-- and the space.
def isNameChar (c : Char) : Bool :=
  c.isAlphanum || c = '_' || c = '-' || c = ' '

def isIndexBlank (c : Char) : Bool :=
  c = ' ' || c = '\t'

-- The least and the greatest index of a key path: those of a signed 64-bit word.
def minIndex : Int := -9223372036854775808
def maxIndex : Int := 9223372036854775807

def nameOf (cs : List Char) : List Char × List Char :=
  (cs.takeWhile isNameChar, cs.dropWhile isNameChar)

-- An index between brackets, blanks allowed around it, within the range of a signed 64-bit
-- word; what follows the bracket.
def indexOf (cs : List Char) : Option (Int × List Char) :=
  let cs := cs.dropWhile isIndexBlank
  let (neg, cs) := match cs with
    | '-' :: rest => (true, rest)
    | _ => (false, cs)
  let ds := cs.takeWhile Char.isDigit
  let rest := (cs.drop ds.length).dropWhile isIndexBlank
  if ds.isEmpty then none
  else
    let v : Int := ds.foldl (fun n c => 10 * n + (c.toNat - 48)) 0
    let v := if neg then -v else v
    if v < minIndex ∨ maxIndex < v then none
    else match rest with
      | ']' :: more => some (v, more)
      | _ => none

-- The steps of a key path after its first name; every round takes a character.
def stepsOf : Nat → List Char → Option (List Step)
  | 0, _ => none
  | _, [] => some []
  | fuel + 1, '.' :: rest =>
    let (name, more) := nameOf rest
    if name.isEmpty then none
    else (Step.child (String.ofList name) :: ·) <$> stepsOf fuel more
  | fuel + 1, '[' :: rest => do
    let (i, more) ← indexOf rest
    (Step.index i :: ·) <$> stepsOf fuel more
  | _, _ => none

-- Reads a key path; a key that is no path names one entry as it is.
def KeyPath.parse (key : String) : KeyPath :=
  let cs := key.toList
  let (name, rest) := nameOf cs
  let steps := if name.isEmpty then none else stepsOf (cs.length + 1) rest
  match steps with
  | some steps => ⟨String.ofList name, steps⟩
  | none => ⟨key, []⟩

-- Sets each entry of a layer in turn; the first crash stops it.
def setAll (root : Value) (layer : List (String × Value)) : Except Crash Value :=
  layer.foldlM (fun r (kv : String × Value) => (KeyPath.parse kv.1).set r kv.2) root

-- ## Values read from a TOML document

open Toml

def keyBefore (a b : String) : Bool :=
  decide (a.toUTF8.toList.map (·.toNat) < b.toUTF8.toList.map (·.toNat))

-- The entries of a table with their keys in lower case, in the order of their keys as
-- written. Of two keys that meet in lower case the later one's value stays.
def lowerKeys (entries : List (String × Value)) : List (String × Value) :=
  (entries.mergeSort fun a b => keyBefore a.1 b.1).foldl
    (fun acc (e : String × Value) => putValue acc (Text.toLower e.1) e.2) []

mutual

-- A TOML value as a setting from `origin`.
def ofTomlValue (origin : Option String) : TValue → Value
  | .str s => .str origin s
  | .int i => .int origin i
  | .float x => .float origin x
  | .bool b => .bool origin b
  | .datetime t => .str origin t
  | .array items => .array origin (ofTomlValues origin items)
  | .inline _ _ entries => .table origin (lowerKeys (ofTomlEntries origin entries))

def ofTomlValues (origin : Option String) : List TValue → List Value
  | [] => []
  | v :: vs => ofTomlValue origin v :: ofTomlValues origin vs

def ofTomlEntries (origin : Option String) : List (String × TValue) → List (String × Value)
  | [] => []
  | (k, v) :: rest => (k, ofTomlValue origin v) :: ofTomlEntries origin rest

end

mutual

def ofTomlItem (origin : Option String) : Item → Value
  | .value v => ofTomlValue origin v
  | .table _ _ entries => .table origin (lowerKeys (ofTomlItems origin entries))
  | .tables items => .array origin (ofTomlTables origin items)

def ofTomlItems (origin : Option String) : List (String × Item) → List (String × Value)
  | [] => []
  | (k, v) :: rest => (k, ofTomlItem origin v) :: ofTomlItems origin rest

def ofTomlTables (origin : Option String) : List (List (String × Item)) → List Value
  | [] => []
  | es :: rest => .table origin (lowerKeys (ofTomlItems origin es)) :: ofTomlTables origin rest

end

-- The layer of a TOML document read from `origin`: its top entries, keys in lower case, in
-- the order of their keys as written.
def tomlLayer (origin : String) (entries : List (String × Item)) : List (String × Value) :=
  lowerKeys (ofTomlItems (some origin) entries)

end RouteWatch.Config
