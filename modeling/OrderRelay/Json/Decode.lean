import OrderRelay.Json.Number

/-!
# Reading values of a kind

Readers that want a value of a certain kind and say what stands in its place if there is none.

* `skipValue`: pass over any value, however deep;
* `mismatch`: there is something else;
* `string`, `integer`, `list`, `record`, `variant`.

A record is written as an object, or as a list of its members in order. Members of an object that the
record does not have are passed over; a member must not come twice.
-/

namespace OrderRelay.Json.Reader

variable {α σ : Type}

/-! ## Passing over a value -/

/-- What a value is inside of. -/
inductive Frame where
  | list
  | object
deriving DecidableEq, Repr

/-- Pass over a value that has no parts, or over the opening bracket of one that has. -/
def skipHead : Reader (Option Frame) := do
  match ← skipBlanks with
  | none => failPeek .eofBeforeValue
  | some b =>
    if b == 0x6E then do skip; word [0x75, 0x6C, 0x6C]; return none
    else if b == 0x74 then do skip; word [0x72, 0x75, 0x65]; return none
    else if b == 0x66 then do skip; word [0x61, 0x6C, 0x73, 0x65]; return none
    else if b == 0x2D then do skip; skipNumber; return none
    else if (digit? b).isSome then do skipNumber; return none
    else if b == 0x22 then do skip; skipString; return none
    else if b == 0x5B then do skip; return some .list
    else if b == 0x7B then do skip; return some .object
    else failPeek .expectedValue

/-- Close as many open brackets as possible. `filled` tells that the innermost one has a value already, so
a comma may follow. The answer is what is still open, innermost first. -/
def skipEnds : (fuel : Nat) → (filled : Bool) → Frame → List Frame → Reader (List Frame)
  | 0, _, frame, outer => return frame :: outer
  | fuel + 1, filled, frame, outer => do
    match ← skipBlanks with
    | none => failPeek (if frame = .list then .eofInList else .eofInObject)
    | some b =>
      if filled && b == 0x2C then
        skip
        return frame :: outer
      else if (frame = .list && b == 0x5D) || (frame = .object && b == 0x7D) then
        skip
        match outer with
        | [] => return []
        | next :: outer => skipEnds fuel true next outer
      else if filled then
        failPeek (if frame = .list then .expectedListCommaOrEnd else .expectedObjectCommaOrEnd)
      else return frame :: outer

/-- Pass over the key of a member. -/
def skipKey : Reader Unit := do
  match ← skipBlanks with
  | none => failPeek .eofInObject
  | some b =>
    if b != 0x22 then failPeek .keyMustBeString
    skip
    skipString
    match ← skipBlanks with
    | none => failPeek .eofInObject
    | some b => if b == 0x3A then skip else failPeek .expectedColon

/-- Pass over the values that are still needed inside of open brackets. Every step takes a byte. -/
def skipLoop : (fuel : Nat) → List Frame → Reader Unit
  | 0, _ => return
  | fuel + 1, outer => do
    let size ← remaining
    let opened ← match ← skipHead, outer with
      | some frame, outer => skipEnds (size + 1) false frame outer
      | none, frame :: outer => skipEnds (size + 1) true frame outer
      | none, [] => pure []
    match opened with
    | [] => return
    | .list :: _ => skipLoop fuel opened
    | .object :: _ => do
      skipKey
      skipLoop fuel opened

/-- Pass over a value. -/
def skipValue : Reader Unit := do skipLoop ((← remaining) + 1) []

/-! ## Values without parts -/

/-- Something else stands where `wanted` should: take it, as far as needed to name it, and fail. -/
def mismatch (wanted : String) : Reader α := placed do
  let wrong (found : Found) : Reader α := failUnplaced (.wrongType found wanted)
  let b ← peekOrZero
  if b == 0x6E then do skip; word [0x75, 0x6C, 0x6C]; wrong .null
  else if b == 0x74 then do skip; word [0x72, 0x75, 0x65]; wrong (.flag true)
  else if b == 0x66 then do skip; word [0x61, 0x6C, 0x73, 0x65]; wrong (.flag false)
  else if b == 0x2D then do skip; wrong (← number false).found
  else if (digit? b).isSome then do wrong (← number true).found
  else if b == 0x22 then do skip; wrong (.text (← stringBody))
  else if b == 0x5B then wrong .list
  else if b == 0x7B then wrong .object
  else failPeek .expectedValue

/-- Look at the first byte of a value. -/
def firstByte : Reader UInt8 := do
  match ← skipBlanks with
  | none => failPeek .eofBeforeValue
  | some b => return b

/-- A string. -/
def string : Reader String := placed do
  if (← firstByte) == 0x22 then
    skip
    stringBody
  else mismatch "a string"

/-- An integer from `low` to `high`; `wanted` names this range. -/
def integer (low high : Int) (wanted : String) : Reader Int := placed do
  let b ← firstByte
  let read (positive : Bool) : Reader Int := do
    match ← number positive with
    | .natural n => check n
    | .negative n => check n
    | .floating x => failUnplaced (.wrongType (.floating (showFloat x)) wanted)
  if b == 0x2D then do skip; read false
  else if (digit? b).isSome then read true
  else mismatch wanted
where
  /-- Only the numbers of the range will do. -/
  check (n : Int) : Reader Int :=
    if low ≤ n ∧ n ≤ high then return n else failUnplaced (.wrongValue (.integer n) wanted)

/-- Nothing but the word for it. -/
def unit : Reader Unit := placed do
  if (← firstByte) == 0x6E then
    skip
    word [0x75, 0x6C, 0x6C]
  else mismatch "unit"

/-! ## Lists -/

/-- Whether another item follows in a list. -/
def hasItem (first : Bool) : Reader Bool := do
  match ← skipBlanks with
  | none => failPeek .eofInList
  | some b =>
    if b == 0x5D then return false
    else if first then return true
    else if b == 0x2C then
      skip
      match ← skipBlanks with
      | none => failPeek .eofBeforeValue
      | some b => if b == 0x5D then failPeek .trailingComma else return true
    else failPeek .expectedListCommaOrEnd

/-- Take the end of a list. -/
def endList : Reader Unit := do
  match ← skipBlanks with
  | none => failPeek .eofInList
  | some b =>
    if b == 0x5D then skip
    else if b == 0x2C then
      skip
      match ← skipBlanks with
      | some 0x5D => failPeek .trailingComma
      | _ => failPeek .trailingCharacters
    else failPeek .trailingCharacters

/-- Take the end of an object. -/
def endObject : Reader Unit := do
  match ← skipBlanks with
  | none => failPeek .eofInObject
  | some b =>
    if b == 0x7D then skip
    else if b == 0x2C then failPeek .trailingComma
    else failPeek .trailingCharacters

/-- Read the parts of a value, then take its end, whether the parts were right or not. The fault of the
parts comes first. -/
def enclosed (parts : Reader α) (ending : Reader Unit) : Reader α := do
  skip
  let a ← tryCatch parts fun fault => do
    tryCatch ending fun _ => return
    throw fault
  ending
  return a

/-- Take items up to the end of a list. -/
def items (item : Reader α) : (fuel : Nat) → (first : Bool) → Reader (List α)
  | 0, _ => return []
  | fuel + 1, first => do
    if ← hasItem first then
      let a ← item
      return a :: (← items item fuel false)
    else return []

/-- A list of any length. -/
def list (item : Reader α) : Reader (List α) := placed do
  if (← firstByte) == 0x5B then
    enclosed (do items item ((← remaining) + 1) true) endList
  else mismatch "a sequence"

/-! ## Records -/

/-- A member of a record whose parts are collected in a `σ`. -/
structure Member (σ : Type) where
  name : String
  isFilled : σ → Bool
  read : σ → Reader σ

/-- What a record of a name is called in messages. -/
def recordName (name : String) : String := "struct " ++ name

/-- What a list of its members is called. -/
def recordLength (name : String) (n : Nat) : String :=
  recordName name ++ " with " ++ toString n ++ (if n = 1 then " element" else " elements")

/-- Take the members of a record out of a list. -/
def membersInOrder (wanted : String) : List (Member σ) → (index : Nat) → σ → Reader σ
  | [], _, s => return s
  | m :: ms, index, s => do
    if ← hasItem (index == 0) then
      membersInOrder wanted ms (index + 1) (← m.read s)
    else failUnplaced (.wrongLength index wanted)

/-- Whether another member follows in an object. -/
def hasMember (first : Bool) : Reader Bool := do
  match ← skipBlanks with
  | none => failPeek .eofInObject
  | some b =>
    if b == 0x7D then return false
    else if first then
      if b == 0x22 then return true else failPeek .keyMustBeString
    else if b == 0x2C then
      skip
      match ← skipBlanks with
      | none => failPeek .eofBeforeValue
      | some b =>
        if b == 0x22 then return true
        else if b == 0x7D then failPeek .trailingComma
        else failPeek .keyMustBeString
    else failPeek .expectedObjectCommaOrEnd

/-- Take the colon after a key. -/
def colon : Reader Unit := do
  match ← skipBlanks with
  | none => failPeek .eofInObject
  | some b => if b == 0x3A then skip else failPeek .expectedColon

/-- Take the members of a record out of an object. -/
def membersByName (members : List (Member σ)) : (fuel : Nat) → (first : Bool) → σ → Reader σ
  | 0, _, s => return s
  | fuel + 1, first, s => do
    if ← hasMember first then
      skip
      let key ← stringBody
      match members.find? (·.name == key) with
      | none => do
        colon
        skipValue
        membersByName members fuel false s
      | some m =>
        if m.isFilled s then failUnplaced (.repeatedMember m.name)
        else do
          colon
          membersByName members fuel false (← m.read s)
    else return s

/-- A record. `finish` makes it of its parts, or names the first one that is missing. -/
def record (name : String) (members : List (Member σ)) (start : σ) (finish : σ → Except String α) :
    Reader α := placed do
  let complete (s : σ) : Reader α :=
    match finish s with
    | .ok a => return a
    | .error missing => failUnplaced (.missingMember missing)
  let b ← firstByte
  if b == 0x5B then
    enclosed (do complete (← membersInOrder (recordLength name members.length) members 0 start))
      endList
  else if b == 0x7B then
    enclosed (do complete (← membersByName members ((← remaining) + 1) true start)) endObject
  else mismatch (recordName name)

/-! ## Variants -/

/-- The name of one of several variants, out of a string. -/
def variantName (known : List String) : Reader String := placed do
  if (← firstByte) == 0x22 then
    skip
    let s ← stringBody
    if known.contains s then return s else failUnplaced (.unknownVariant s known)
  else mismatch "variant identifier"

/-- One of several variants without content: its name, or an object with the name and nothing. -/
def variant (known : List String) : Reader String := do
  match ← skipBlanks with
  | none => failPeek .eofBeforeValue
  | some b =>
    if b == 0x22 then variantName known
    else if b == 0x7B then
      skip
      match ← skipBlanks with
      | none => failPeek .eofInObject
      | some b => if b != 0x22 then failPeek (if b == 0x7D then .expectedValue else .keyMustBeString)
      let name ← variantName known
      colon
      unit
      match ← skipBlanks with
      | none => fail .eofInObject
      | some b => if b == 0x7D then skip else fail .expectedValue
      return name
    else failPeek .expectedValue

end OrderRelay.Json.Reader
