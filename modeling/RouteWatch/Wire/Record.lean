import RouteWatch.Wire.Reader
import RouteWatch.Wire.Quote
import RouteWatch.Interest
import RouteWatch.Time.Rfc3339

-- Interests, requests and event kinds as JSON.
namespace RouteWatch.Wire

open Time

-- What a field holds once read.
inductive FieldValue where
  | text (s : String)
  | moment (t : Instant)
  deriving DecidableEq, Repr

-- How one field of a record is read: its name, how messages call what it wants, and what a
-- string must be to fill it.
structure FieldSpec where
  name : String
  expecting : String
  visit : String → Except String FieldValue

def textField (name : String) : FieldSpec :=
  ⟨name, "a string", fun s => .ok (.text s)⟩

-- A field holding a moment in RFC 3339 form.
def momentField (name : String) : FieldSpec :=
  ⟨name, "an RFC 3339 formatted date and time string", fun s =>
    match Instant.parse s with
    | .ok t => .ok (.moment t)
    | .error f => .error f.message⟩

-- A fault of meaning, placed later where the value it concerns ends.
def dataFault {α : Type} (message : String) : Read α :=
  throw ⟨.data message, none⟩

-- Reads a string and hands it to `visit`; anything but a string is of the wrong type.
def readStr {α : Type} (expecting : String) (visit : String → Except String α) : Read α := do
  match ← ws with
  | none => peekFail .eofInValue
  | some c =>
    let r ← attempt do
      if c = 34 then
        eat
        let s ← str
        match visit s with
        | .ok a => pure a
        | .error m => dataFault m
      else throw (← invalidType expecting)
    match r with
    | .ok a => pure a
    | .error e => throw (← fix e)

-- Whether another element follows in a list; `first` says none was read yet.
def hasNextElement (first : Bool) : Read Bool := do
  match ← ws with
  | none => peekFail .eofInList
  | some 93 => pure false
  | some 44 =>
    if first then pure true
    else
      eat
      match ← ws with
      | some 93 => peekFail .trailingComma
      | some _ => pure true
      | none => peekFail .eofInValue
  | some _ => if first then pure true else peekFail .expectedListCommaOrEnd

-- Closes a list after its last wanted element.
def endList : Read Unit := do
  match ← ws with
  | some 93 => eat
  | some 44 =>
    eat
    match ← ws with
    | some 93 => peekFail .trailingComma
    | _ => peekFail .trailingCharacters
  | some _ => peekFail .trailingCharacters
  | none => peekFail .eofInList

-- Closes an object after its last member.
def endObject : Read Unit := do
  match ← ws with
  | some 125 => eat
  | some 44 => peekFail .trailingComma
  | some _ => peekFail .trailingCharacters
  | none => peekFail .eofInObject

-- The next key of an object, or none at its end; `first` says no member was read yet.
def nextKey (first : Bool) : Read (Option String) := do
  let start ← ws
  if start = some 125 then return none
  let c ← match start with
    | some 44 =>
      if first then pure (some 44)
      else
        eat
        ws
    | some c => if first then pure (some c) else peekFail .expectedObjectCommaOrEnd
    | none => peekFail .eofInObject
  match c with
  | some 34 => eat; return some (← str)
  -- a comma ended the members
  | some 125 => peekFail .trailingComma
  | some _ => peekFail .keyNotString
  | none => peekFail .eofInValue

-- Takes the colon between a key and its value.
def colon : Read Unit := do
  match ← ws with
  | some 58 => eat
  | some _ => peekFail .expectedColon
  | none => peekFail .eofInObject

-- "n elements", with the singular for one.
def elementsText (n : Nat) : String :=
  toString n ++ (if n = 1 then " element" else " elements")

-- Reads the fields of a record given as a list, in order.
def listFields (what : String) (specs : List FieldSpec) : Read (List FieldValue) :=
  go specs 0
where
  go : List FieldSpec → Nat → Read (List FieldValue)
    | [], _ => pure []
    | spec :: rest, i => do
      if !(← hasNextElement (i = 0)) then
        dataFault ("invalid length " ++ toString i ++ ", expected " ++ what ++ " with " ++
          elementsText specs.length)
      let v ← readStr spec.expecting spec.visit
      return v :: (← go rest (i + 1))

-- Reads the members of an object into `slots`, one per field. Each round takes at least one
-- byte, so the length of the text bounds the rounds.
def memberLoop (specs : List FieldSpec) :
    Nat → Bool → List (Option FieldValue) → Read (List (Option FieldValue))
  | 0, _, slots => pure slots
  | fuel + 1, first, slots => do
    match ← nextKey first with
    | none => pure slots
    | some key =>
      match specs.findIdx? (·.name = key) with
      | some k =>
        if (slots.getD k none).isSome then dataFault ("duplicate field `" ++ key ++ "`")
        colon
        let spec := specs.getD k (textField key)
        let v ← readStr spec.expecting spec.visit
        memberLoop specs fuel false (slots.set k (some v))
      | none =>
        colon
        skipValue
        memberLoop specs fuel false slots

-- Reads the fields of a record given as an object; every field must be there.
def objectFields (specs : List FieldSpec) : Read (List FieldValue) := do
  let slots ← memberLoop specs ((← read).size + 1) true (specs.map fun _ => none)
  (specs.zip slots).mapM fun (spec, slot) =>
    match slot with
    | some v => pure v
    | none => dataFault ("missing field `" ++ spec.name ++ "`")

-- Runs `m`, then `close` even when `m` failed; the first fault wins.
def thenClose {α : Type} (m : Read α) (close : Read Unit) : Read α := do
  let r ← attempt m
  let c ← attempt close
  match r, c with
  | .ok a, .ok () => pure a
  | .error e, _ => throw e
  | _, .error e => throw e

-- Reads a record named `what` with the given fields, from an object or a list.
def readRecord (what : String) (specs : List FieldSpec) : Read (List FieldValue) := do
  match ← ws with
  | none => peekFail .eofInValue
  | some c =>
    let r ← attempt do
      if c = 91 then
        eat
        thenClose (listFields what specs) endList
      else if c = 123 then
        eat
        thenClose (objectFields specs) endObject
      else throw (← invalidType what)
    match r with
    | .ok vs => pure vs
    | .error e => throw (← fix e)

def interestFields : List FieldSpec :=
  [textField "appname", textField "serviceIp", momentField "createdAt", momentField "updatedAt"]

def requestFields : List FieldSpec :=
  [textField "appname", textField "serviceIp"]

def FieldValue.str : FieldValue → String
  | .text s => s
  | .moment t => t.text

def FieldValue.instant : FieldValue → Instant
  | .text _ => ⟨0, 0, 0⟩
  | .moment t => t

def readInterest : Read (Interest Instant) := do
  let vs ← readRecord "struct Interest" interestFields
  match vs with
  | [a, ip, c, u] => pure ⟨a.str, ip.str, c.instant, u.instant⟩
  | _ => dataFault "invalid length"

def readRequest : Read Request := do
  let vs ← readRecord "struct InterestRequest" requestFields
  match vs with
  | [a, ip] => pure ⟨a.str, ip.str⟩
  | _ => dataFault "invalid length"

-- The names of the event kinds in backquotes, as a message lists them.
def kindChoices : String :=
  ", ".intercalate (EventKind.all.map fun k => "`" ++ k.wireName ++ "`")

-- The event kind named by a string.
def kindOfName (s : String) : Except String EventKind :=
  match EventKind.ofWireName? s with
  | some k => .ok k
  | none => .error ("unknown variant `" ++ s ++ "`, expected one of " ++ kindChoices)

-- Reads `null`, the value of a kind given as an object.
def readUnit : Read Unit := do
  match ← ws with
  | none => peekFail .eofInValue
  | some c =>
    let r ← attempt do
      if c = 110 then
        eat
        ident [117, 108, 108]
      else throw (← invalidType "unit")
    match r with
    | .ok () => pure ()
    | .error e => throw (← fix e)

-- Reads the name of an event kind where it stands as the key of an object.
def readKindKey : Read EventKind := do
  match ← ws with
  | some 34 => readStr "variant identifier" kindOfName
  | some 125 => peekFail .expectedValue
  | some _ => peekFail .keyNotString
  | none => peekFail .eofInObject

-- Reads an event kind: its name as a string, or an object with the name as its one key.
def readKind : Read EventKind := do
  match ← ws with
  | some 123 =>
    eat
    let k ← readKindKey
    colon
    readUnit
    match ← ws with
    | some 125 => eat; pure k
    | some _ => fail .expectedValue
    | none => fail .eofInObject
  | some 34 => readStr "variant identifier" kindOfName
  | some _ => peekFail .expectedValue
  | none => peekFail .eofInValue

def interestText (i : Interest Instant) : String :=
  objectText [("appname", quote i.appName), ("serviceIp", quote i.serviceIp),
    ("createdAt", quote i.createdAt.text), ("updatedAt", quote i.updatedAt.text)]

def requestText (r : Request) : String :=
  objectText [("appname", quote r.appName), ("serviceIp", quote r.serviceIp)]

end RouteWatch.Wire
