import OrderRelay.Text.Digits
import OrderRelay.Text.Utf8

/-!
# Request targets

The target of a request is a path and perhaps a query, after the name of a host or without it. Only the path
says what is asked for.

* `Target.path`, the path of a target, or why the target is refused (`TargetError`);
* `Target.scheme?` and `Host.pass`, what can stand before the path;
* `decodePercent`, a part of a path with its escapes replaced by the bytes they stand for.
-/

namespace OrderRelay.Http

open Text

/-- Why a target or a method is refused before anything is asked. -/
inductive TargetError where
  | empty
  | tooLong
  | schemeTooLong
  | invalidFormat
  | invalidHost
  | invalidCharacter
  | invalidMethod
deriving DecidableEq, Repr

/-- The message of an error. -/
def TargetError.message : TargetError → String
  | empty => "empty string"
  | tooLong => "uri too long"
  | schemeTooLong => "scheme too long"
  | invalidFormat => "invalid format"
  | invalidHost => "invalid authority"
  | invalidCharacter => "invalid uri character"
  | invalidMethod => "invalid HTTP method"

/-! ## Hosts -/

/-- What has been read of a host, with the user before it and the number of a service after it. -/
structure Host where
  /-- The colons after the user and after an address in brackets. -/
  colons : Nat
  opened : Bool
  closed : Bool
  /-- There is an escape that belongs neither to the user nor to an address in brackets. -/
  escaped : Bool
  /-- The last character was the one between the user and the host. -/
  unnamed : Bool
deriving DecidableEq, Repr

namespace Host

/-- The beginning. -/
def start : Host := ⟨0, false, false, false, false⟩

/-- The most colons. -/
def mostColons : Nat := 8

/-- Characters without a meaning of their own. -/
def isPlainChar (c : Char) : Bool := c.isAlphanum || "!$&'()*+,-.;=_~".toList.contains c

/-- Read one character. -/
def step (h : Host) (c : Char) : Except TargetError Host :=
  let h' := { h with unnamed := false }
  if c = ':' then
    if mostColons ≤ h.colons then .error .invalidHost else .ok { h' with colons := h.colons + 1 }
  else if c = '[' then
    if h.escaped || h.opened then .error .invalidHost else .ok { h' with opened := true }
  else if c = ']' then
    if !h.opened || h.closed then .error .invalidHost
    else .ok { h' with closed := true, colons := 0, escaped := false }
  else if c = '@' then .ok { h with unnamed := true, colons := 0, escaped := false }
  else if c = '%' then .ok { h' with escaped := true }
  else if isPlainChar c then .ok h'
  else .error .invalidCharacter

/-- A host can end here. -/
def isComplete (h : Host) : Bool := h.opened == h.closed && h.colons ≤ 1 && !h.unnamed && !h.escaped

/-- Read a host, which may be empty. It ends where a path, a query or a fragment begins; the answer is what
comes from there. -/
def pass (h : Host) : List Char → Except TargetError (List Char)
  | [] => if h.isComplete then .ok [] else .error .invalidHost
  | c :: cs =>
    if c = '/' ∨ c = '?' ∨ c = '#' then
      if h.isComplete then .ok (c :: cs) else .error .invalidHost
    else do pass (← h.step c) cs

end Host

/-! ## Targets -/

namespace Target

/-- The ASCII characters of a path. Of those that should be escaped, quotes and braces are allowed. Beyond
ASCII, everything is. -/
def isPathChar (c : Char) : Bool :=
  let n := c.toNat
  n == 0x21 || n == 0x22 || (0x24 ≤ n && n ≤ 0x3B) || n == 0x3D || (0x40 ≤ n && n ≤ 0x5F) ||
    (0x61 ≤ n && n != 0x7F)

/-- The characters of a query. -/
def isQueryChar (c : Char) : Bool :=
  let n := c.toNat
  n == 0x21 || (0x24 ≤ n && n ≤ 0x3B) || n == 0x3D || (0x3F ≤ n && n != 0x7F)

/-- The characters of a scheme. -/
def isSchemeChar (c : Char) : Bool := c.isAlphanum || "+-.~".toList.contains c

/-- The most bytes that a target can have. -/
def mostBytes : Nat := 65534

/-- The most characters of a scheme. -/
def longestScheme : Nat := 64

/-- What comes after a scheme, if the target begins with one. The scheme itself may be missing, but then
something must come after its two slashes. -/
def scheme? (cs : List Char) : Except TargetError (Option (List Char)) :=
  match cs.span isSchemeChar with
  | (name, ':' :: '/' :: '/' :: rest) =>
    if name.isEmpty && rest.isEmpty then .ok none
    else if longestScheme < name.length then .error .schemeTooLong
    else .ok (some rest)
  | _ => .ok none

/-- The path at the beginning. It ends where a query or a fragment begins; a fragment may hold anything. -/
def pathOf (cs : List Char) : Except TargetError String :=
  let (path, rest) := cs.span fun c => c != '?' && c != '#'
  let query := match rest with
    | '?' :: cs => cs.takeWhile (· != '#')
    | _ => []
  if path.all isPathChar && query.all isQueryChar then .ok (String.ofList path)
  else .error .invalidCharacter

/-- The path of a target that does not begin with it. After a scheme there must be a host, and the path may
be missing. Without a scheme there is nothing but a host, and no path. -/
def pathAfterHost (cs : List Char) : Except TargetError String := do
  match ← scheme? cs with
  | none =>
    if (← Host.start.pass cs).isEmpty then return ""
    else throw (if cs.length = 1 then .invalidCharacter else .invalidFormat)
  | some [] => throw .empty
  | some cs =>
    let rest ← Host.start.pass cs
    if rest.length = cs.length then throw .invalidFormat
    let path ← pathOf rest
    return if path = "" then "/" else path

/-- The path of a target. A single asterisk is a path too. -/
def path (target : String) : Except TargetError String :=
  if mostBytes < target.utf8ByteSize then .error .tooLong
  else match target.toList with
    | [] => .error .empty
    | ['*'] => .ok "*"
    | '/' :: cs => pathOf ('/' :: cs)
    | cs => pathAfterHost cs

end Target

/-! ## Escapes -/

/-- Replace every per cent sign with two digits of base sixteen by the byte they stand for. A sign without
them stays as it is. -/
def decodeBytes : List UInt8 → List UInt8
  | 0x25 :: a :: b :: rest =>
    match digit? 16 (Char.ofNat a.toNat), digit? 16 (Char.ofNat b.toNat) with
    | some x, some y => UInt8.ofNat (16 * x + y) :: decodeBytes rest
    | _, _ => 0x25 :: decodeBytes (a :: b :: rest)
  | c :: rest => c :: decodeBytes rest
  | [] => []

/-- The text that a part of a path stands for, if the bytes are a text. -/
def decodePercent (s : String) : Option String := textOf? (decodeBytes (bytesOf s))

end OrderRelay.Http
