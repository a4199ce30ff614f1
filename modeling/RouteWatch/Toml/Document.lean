import RouteWatch.Toml.Grammar

-- A TOML document read into its tables.
namespace RouteWatch.Toml

-- An entry of a table: a value, a table (made implicitly, made by a dotted key), or an array
-- of tables.
inductive Item where
  | value (v : TValue)
  | table (implicit dotted : Bool) (entries : List (String × Item))
  | tables (items : List (List (String × Item)))
  deriving Repr

structure Tab where
  implicit : Bool
  dotted : Bool
  entries : List (String × Item)
  deriving Repr

-- A table with nothing in it, made on purpose.
def Tab.empty : Tab := ⟨false, false, []⟩

def Tab.item (t : Tab) : Item := .table t.implicit t.dotted t.entries

-- Runs `f` on the table at `rest` below `t`, making missing tables on the way (implicit, and
-- dotted when `dotted`); `seen` is the part of the path walked. Under an array of tables the way
-- goes into its last table.
def descend {β : Type} (f : Tab → Except String (Tab × β)) (dotted : Bool) (seen : List String) :
    List String → Tab → Except String (Tab × β)
  | [], t => f t
  | k :: rest, t => do
    let here := seen ++ [k]
    match t.entries.lookup k with
    | none =>
      let (child, b) ← descend f dotted here rest ⟨true, dotted, []⟩
      return ({ t with entries := putEntry t.entries k child.item }, b)
    | some (.value v) => throw (extendWrongType here v.typeName)
    | some (.tables items) =>
      let (child, b) ← descend f dotted here rest ⟨false, false, items.getLastD []⟩
      return ({ t with entries := putEntry t.entries k (.tables (items.dropLast ++ [child.entries])) }, b)
    | some (.table implicit wasDotted es) =>
      if dotted && !implicit then throw (duplicateKey k none)
      let (child, b) ← descend f dotted here rest ⟨implicit, wasDotted, es⟩
      return ({ t with entries := putEntry t.entries k child.item }, b)

-- Where reading a document stands: the root, the table being filled, its header path, and
-- whether that header adds to an array of tables.
structure DocState where
  root : Tab
  current : Tab
  path : List String
  isArray : Bool
  deriving Repr

namespace DocState

def initial : DocState := ⟨Tab.empty, Tab.empty, [], false⟩

-- Adds a pair to the table being filled, below it by the dotted part of its key.
def onPair (st : DocState) (dotted : List String) (key : String) (v : TValue) :
    Except String DocState := do
  let (cur, ()) ← descend (fun t => do
      if t.dotted = dotted.isEmpty then throw (duplicateKey key none)
      if t.entries.any (·.1 = key) then throw (duplicateKey key (some st.path))
      return ({ t with entries := t.entries ++ [(key, .value v)] }, ())) true [] dotted st.current
  return { st with current := cur }

-- Puts the table being filled in its place.
def finalize (st : DocState) : Except String DocState := do
  let table := st.current
  let cleared := { st with current := Tab.empty, path := [] }
  match st.path.reverse with
  | [] => return { cleared with root := table }
  | last :: parentRev =>
    let parent := parentRev.reverse
    let clash := duplicateKey (keyText last) (some parent)
    let (root, ()) ← descend (fun t =>
        if st.isArray then
          match t.entries.lookup last with
          | none => pure ({ t with entries := t.entries ++ [(last, .tables [table.entries])] }, ())
          | some (.tables items) =>
            pure ({ t with entries := putEntry t.entries last (.tables (items ++ [table.entries])) }, ())
          | some _ => throw clash
        else
          match t.entries.lookup last with
          | none => pure ({ t with entries := t.entries ++ [(last, table.item)] }, ())
          | some (.table true _ _) => pure ({ t with entries := putEntry t.entries last table.item }, ())
          | some _ => throw clash) false [] parent st.root
    return { cleared with root := root }

-- Opens the table of a `[header]`; a table only made by deeper headers is taken up again.
def onTableHeader (st : DocState) (path : List String) : Except String DocState := do
  let st ← st.finalize
  match path.reverse with
  | [] => return st
  | last :: parentRev =>
    let parent := parentRev.reverse
    let (root, entries) ← descend (fun t =>
        match t.entries.lookup last with
        | some (.table true false es) => pure ({ t with entries := t.entries.filter (·.1 != last) }, es)
        | some _ => throw (duplicateKey (keyText last) (some parent))
        | none => pure (t, [])) false [] parent st.root
    return { st with root := root, current := ⟨false, false, entries⟩, path := path, isArray := false }

-- Opens a new table of the array of tables of a `[[header]]`.
def onArrayHeader (st : DocState) (path : List String) : Except String DocState := do
  let st ← st.finalize
  match path.reverse with
  | [] => return st
  | last :: parentRev =>
    let parent := parentRev.reverse
    let (root, ()) ← descend (fun t =>
        match t.entries.lookup last with
        | none => pure ({ t with entries := t.entries ++ [(last, .tables [])] }, ())
        | some (.tables _) => pure (t, ())
        | some _ => throw (duplicateKey (keyText last) (some parent))) false [] parent st.root
    return { st with root := root, current := Tab.empty, path := path, isArray := true }

end DocState

-- Applies a change of the reading state; a refusal is placed at `start`.
def settle (start : Nat) (r : Except String DocState) : Scan DocState :=
  match r with
  | .ok st => pure st
  | .error cause => do reset start; refuse cause

-- A key-value pair, added to the table being filled.
def pairLine (st : DocState) : Scan DocState := do
  let start ← here
  let (k, v) ← keyval
  match k.reverse with
  | key :: dottedRev => settle start (st.onPair dottedRev.reverse key v)
  | [] => pure st

def tableHeader (st : DocState) : Scan DocState := do
  let start ← here
  byte 91
  let k ← cut key
  hints [.expected "`.`", .expected "`]`"] (cut (byte 93))
  hints [.expected "newline", .expected "`#`"] (cut lineTrailing)
  settle start (st.onTableHeader k)

def arrayHeader (st : DocState) : Scan DocState := do
  let start ← here
  tag "[["
  let k ← cut key
  hints [.expected "`.`", .expected "`]]`"] (cut (tag "]]"))
  hints [.expected "newline", .expected "`#`"] (cut lineTrailing)
  settle start (st.onArrayHeader k)

-- A header line of either kind.
def header (st : DocState) : Scan DocState :=
  label "table header" do
    let b ← read
    let i ← here
    if b.size < i + 2 then miss
    else if b.extract i (i + 2) == "[[".toUTF8 then arrayHeader st
    else tableHeader st

-- The lines of a document, each followed by blanks; every round takes a byte.
def lines : Nat → DocState → Scan DocState
  | 0, st => pure st
  | fuel + 1, st => do
    let start ← here
    match ← peekByte with
    | none => pure st
    | some c =>
      let next ←
        if c = 35 then do cut (do comment; lineEnding); pure (some st)
        else if c = 91 then some <$> cut (header st)
        else if c = 10 ∨ c = 13 then do
          match ← opt newline with
          | some () => pure (some st)
          | none => reset start; pure none
        else some <$> cut (pairLine st)
      match next with
      | none => pure st
      | some st => ws; lines fuel st

-- A whole document: a byte order mark, blanks, lines, and the end.
def document : Scan DocState := do
  let _ ← opt (tag "\uFEFF")
  ws
  let st ← lines ((← read).size + 1) DocState.initial
  atEnd
  return st

-- The line (from 0) and column (in characters) of byte index `i`; past the end it counts on
-- from the last byte.
def translatePosition (b : ByteArray) (i : Nat) : Nat × Nat :=
  if b.size = 0 then (0, i)
  else
    let safe := min i (b.size - 1)
    let beyond := i - safe
    let before := (b.extract 0 safe).toList
    let lineStart := match (before.zipIdx.filter (·.1 = 10)).getLast? with
      | some (_, k) => k + 1
      | none => 0
    let line := ((b.extract 0 lineStart).toList.filter (· = 10)).length
    let column := match String.fromUTF8? (b.extract lineStart (safe + 1)) with
      | some s => s.length - 1
      | none => safe - lineStart
    (line, column + beyond)

def spaces (n : Nat) : String :=
  String.ofList (List.replicate n ' ')

-- Whether byte `b` continues a character rather than starting one.
def isContinuation (b : UInt8) : Bool :=
  0x80 ≤ b && b < 0xC0

-- The start of the character that holds byte index `i`, or `i` itself past the end.
def charStart (b : ByteArray) (i : Nat) : Nat :=
  (List.range (i + 1)).reverse.find? (fun k => !(b[k]? |>.map isContinuation |>.getD false))
    |>.getD 0

-- The number of bytes of the character starting at byte index `i`; none past the end.
def charWidth (b : ByteArray) (i : Nat) : Nat :=
  match b[i]? with
  | none => 0
  | some lead => if lead < 0x80 then 1 else if lead < 0xE0 then 2 else if lead < 0xF0 then 3 else 4

-- A refusal at byte index `i` of `text`: where, the line with carets under the character
-- found there (one per byte, cut at the end of the line, at least one), and the message.
def errorText (text : String) (i : Nat) (message : String) : String :=
  let bytes := text.toUTF8
  let i := charStart bytes i
  let (line, column) := translatePosition bytes i
  let lineNum := toString (line + 1)
  let gutter := lineNum.length
  let content := (text.splitOn "\n").getD line ""
  let width := min (charWidth bytes i) (content.utf8ByteSize - column)
  "TOML parse error at line " ++ lineNum ++ ", column " ++ toString (column + 1) ++ "\n" ++
    spaces (gutter + 1) ++ "|\n" ++
    lineNum ++ " | " ++ content ++ "\n" ++
    spaces (gutter + 1) ++ "|" ++ spaces (column + 1) ++
    String.ofList (List.replicate (max 1 width) '^') ++ "\n" ++
    message ++ "\n"

-- Reads a document into its root table, or the text of its refusal.
def parseDocument (text : String) : Except String (List (String × Item)) :=
  match document.runOn text.toUTF8 with
  | (.error f, i) => .error (errorText text i f.message)
  | (.ok st, _) =>
    match st.finalize with
    | .ok st => .ok st.root.entries
    | .error m => .error (m ++ "\n")

end RouteWatch.Toml
