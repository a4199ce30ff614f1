-- A scanner over the bytes of a TOML document, with the failures its messages are made of.
namespace RouteWatch.Toml

-- A hint a failure gathers: the rule being read, or a thing expected.
inductive Hint where
  | label (what : String)
  | expected (what : String)
  deriving DecidableEq, Repr

-- A failed scan: whether it is final, its hints in the order gathered, and the reason a value
-- was refused, if one was.
structure Failure where
  cut : Bool
  hints : List Hint
  cause : Option String
  deriving DecidableEq, Repr

def Failure.plain : Failure := ⟨false, [], none⟩

-- The message of a failure: the first label, then what was expected, then the reason.
def Failure.message (f : Failure) : String :=
  let label := f.hints.findSome? fun h => match h with
    | .label w => some w
    | .expected _ => none
  let expected := f.hints.filterMap fun h => match h with
    | .expected w => some w
    | .label _ => none
  let parts :=
    (match label with | some w => ["invalid " ++ w] | none => []) ++
    (if expected.isEmpty then [] else ["expected " ++ ", ".intercalate expected]) ++
    (match f.cause with | some c => [c] | none => [])
  "\n".intercalate parts

-- A scan over a document's bytes, keeping the byte index.
abbrev Scan := ExceptT Failure (StateT Nat (ReaderT ByteArray Id))

-- Runs a scan from the start of `b`: its result and the index where it stopped.
def Scan.runOn {α : Type} (m : Scan α) (b : ByteArray) : Except Failure α × Nat :=
  ((m.run).run 0).run b

def here : Scan Nat := get

def reset (i : Nat) : Scan Unit := set i

def peekByte : Scan (Option UInt8) := do
  let b ← read
  let i ← here
  return if h : i < b.size then some b[i] else none

def miss {α : Type} : Scan α :=
  throw Failure.plain

def refuse {α : Type} (cause : String) : Scan α :=
  throw ⟨false, [], some cause⟩

-- Takes any byte; fails softly at the end.
def anyByte : Scan UInt8 := do
  match ← peekByte with
  | some c => modify (· + 1); return c
  | none => miss

-- Takes one byte that `p` accepts; otherwise fails softly, taking nothing.
def oneOf (p : UInt8 → Bool) : Scan UInt8 := do
  match ← peekByte with
  | some c => if p c then modify (· + 1); return c else miss
  | none => miss

def byte (c : UInt8) : Scan Unit := do
  let _ ← oneOf (· == c)

-- Takes the bytes of `s`; otherwise fails softly, taking nothing.
def tag (s : String) : Scan Unit := do
  let b ← read
  let i ← here
  let t := s.toUTF8
  if b.extract i (i + t.size) == t then set (i + t.size) else miss

-- Succeeds at the end of the input only.
def atEnd : Scan Unit := do
  if (← peekByte).isNone then pure () else miss

-- The index of the first byte from `i` on that `p` refuses, taking at most `max` bytes.
def spanWhile (b : ByteArray) (p : UInt8 → Bool) (i : Nat) : Nat → Nat
  | 0 => i
  | max + 1 =>
    if h : i < b.size then
      if p b[i] then spanWhile b p (i + 1) max else i
    else i

-- Takes from `min` to `max` bytes that `p` accepts (any number when `max` is none), as many
-- as there are; fails softly, taking nothing, when there are fewer than `min`. Gives the bytes
-- taken.
def takeWhile (p : UInt8 → Bool) (min : Nat) (max : Option Nat) : Scan ByteArray := do
  let b ← read
  let i ← here
  let j := spanWhile b p i (max.getD b.size)
  if j - i < min then miss
  else
    set j
    return b.extract i j

def skipWhile (p : UInt8 → Bool) : Scan Unit := do
  let _ ← takeWhile p 0 none

-- Makes a soft failure of `m` final.
def cut {α : Type} (m : Scan α) : Scan α :=
  tryCatch m fun f => throw { f with cut := true }

def hint {α : Type} (h : Hint) (m : Scan α) : Scan α :=
  tryCatch m fun f => throw { f with hints := f.hints ++ [h] }

def label {α : Type} (what : String) (m : Scan α) : Scan α :=
  hint (.label what) m

def expect {α : Type} (what : String) (m : Scan α) : Scan α :=
  hint (.expected what) m

-- A character as a hint shows it: a newline by name, others in backquotes.
def charHint (c : Char) : String :=
  if c = '\n' then "newline" else "`" ++ String.singleton c ++ "`"

def expectChar {α : Type} (c : Char) (m : Scan α) : Scan α :=
  expect (charHint c) m

-- Tries the alternatives in order, each from the same start; a final failure stops the
-- choice. After the last soft failure the position stays where it stopped.
def firstOf {α : Type} : List (Scan α) → Scan α
  | [] => miss
  | [m] => m
  | m :: rest => do
    let start ← here
    tryCatch m fun f =>
      if f.cut then throw f
      else do
        reset start
        firstOf rest

-- `m`, or none after a soft failure (the position is put back).
def opt {α : Type} (m : Scan α) : Scan (Option α) := do
  let start ← here
  tryCatch (some <$> m) fun f =>
    if f.cut then throw f
    else do
      reset start
      return none

-- Looks ahead with `m`, taking nothing when it succeeds.
def lookAhead {α : Type} (m : Scan α) : Scan α := do
  let start ← here
  let a ← m
  reset start
  return a

-- Runs `m` as long as it succeeds and takes something, at most `fuel` times; a soft failure
-- ends the run where that attempt began.
def manyLoop {α : Type} (m : Scan α) : Nat → List α → Scan (List α)
  | 0, acc => return acc.reverse
  | fuel + 1, acc => do
    let start ← here
    match ← opt m with
    | none => return acc.reverse
    | some a =>
      if (← here) = start then return (a :: acc).reverse
      else manyLoop m fuel (a :: acc)

-- Runs `m` as often as it succeeds. Every run that counts takes a byte, so the length of the
-- input bounds the runs.
def many {α : Type} (m : Scan α) : Scan (List α) := do
  manyLoop m ((← read).size + 1) []

def many1 {α : Type} (m : Scan α) : Scan (List α) := do
  let a ← m
  return a :: (← many m)

-- The items after the first of a separated list: a separator and an item each, until either
-- fails softly, which puts the position back before that separator.
def sepLoop {α β : Type} (m : Scan α) (sep : Scan β) : Nat → List α → Scan (List α)
  | 0, acc => return acc.reverse
  | fuel + 1, acc => do
    let start ← here
    match ← opt sep with
    | none => return acc.reverse
    | some _ =>
      match ← opt m with
      | none => reset start; return acc.reverse
      | some a => sepLoop m sep fuel (a :: acc)

def sepBy1 {α β : Type} (m : Scan α) (sep : Scan β) : Scan (List α) := do
  let a ← m
  sepLoop m sep ((← read).size + 1) [a]

def sepBy {α β : Type} (m : Scan α) (sep : Scan β) : Scan (List α) := do
  match ← opt m with
  | none => return []
  | some a => sepLoop m sep ((← read).size + 1) [a]

-- Checks what `m` read with `f`; a refusal puts the position back to where `m` began and
-- fails softly with the reason.
def refine {α β : Type} (m : Scan α) (f : α → Except String β) : Scan β := do
  let start ← here
  let a ← m
  match f a with
  | .ok b => return b
  | .error cause => reset start; refuse cause

-- The text of bytes known to be UTF-8.
def textOf (bs : ByteArray) : String :=
  (String.fromUTF8? bs).getD ""

end RouteWatch.Toml
