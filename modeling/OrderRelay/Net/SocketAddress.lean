import OrderRelay.Text.Digits
import OrderRelay.Text.Quoted

/-!
# Socket addresses

An internet address of either version, and the number of one of the services there, its `portNumber`.

* `Octets`, an address of version four, and `Groups`, one of version six;
* `SocketAddress`, with `SocketAddress.parse?` and `SocketAddress.render`.

An address of version six is written shortest: the longest run of zero groups, the first of equals, becomes
`::` if it has at least two. Reading allows any run to be written so.
-/

namespace OrderRelay

open Text

namespace Net

/-- An address of version four. -/
structure Octets where
  a : UInt8
  b : UInt8
  c : UInt8
  d : UInt8
deriving DecidableEq, Repr

/-- An address of version six. -/
abbrev Groups := Vector UInt16 8

/-! ## Writing -/

/-- The four numbers with points between them. -/
def Octets.render (o : Octets) : String :=
  ".".intercalate ([o.a, o.b, o.c, o.d].map fun n => toString n.toNat)

/-- Groups in base sixteen with colons between them. -/
def renderGroups (gs : List UInt16) : String :=
  ":".intercalate (gs.map fun g => hexDigits g.toNat)

/-- The length of the run of zeros that a list begins with. -/
def zeros (gs : List UInt16) : Nat := (gs.takeWhile (· == 0)).length

/-- The place and the length of the longest run of zeros, the first of equals. -/
def longestZeros (gs : List UInt16) : Nat × Nat :=
  (List.range gs.length).foldl
    (fun best i => if best.2 < zeros (gs.drop i) then (i, zeros (gs.drop i)) else best) (0, 0)

/-- The address of version four that an address of version six stands for. -/
def Groups.mapped? (gs : Groups) : Option Octets :=
  if gs.toList.take 6 = [0, 0, 0, 0, 0, 0xFFFF] then
    some ⟨(gs[6] >>> 8).toUInt8, gs[6].toUInt8, (gs[7] >>> 8).toUInt8, gs[7].toUInt8⟩
  else none

/-- The shortest text of an address. -/
def Groups.render (gs : Groups) : String :=
  match Groups.mapped? gs with
  | some o => "::ffff:" ++ o.render
  | none =>
    let all := gs.toList
    let (start, length) := longestZeros all
    if 1 < length then
      renderGroups (all.take start) ++ "::" ++ renderGroups (all.drop (start + length))
    else renderGroups all

/-! ## Reading -/

/-- A reader of the beginning of a text. -/
abbrev Scan := StateT (List Char) Option

/-- Read one given character. -/
def char (c : Char) : Scan Unit
  | [] => none
  | x :: xs => if x = c then some ((), xs) else none

/-- Read as much as there is, if anything: without it, nothing is read. -/
def perhaps {α : Type} (r : Scan α) : Scan (Option α) := fun cs =>
  match r cs with
  | some (a, rest) => some (some a, rest)
  | none => some (none, cs)

/-- How a number is written: its base, the most digits it may have, whether zeros may lead it, and its
bound. -/
structure NumberForm where
  base : Nat
  most : Option Nat
  padded : Bool
  bound : Nat

/-- Read all the digits there are as one number. -/
def number (form : NumberForm) : Scan Nat := fun cs =>
  let (ds, rest) := spanDigits form.base cs
  let n := ofDigits form.base ds
  if ds.isEmpty || form.most.any (· < ds.length) || form.bound ≤ n then none
  else if !form.padded && ds.head? == some 0 && 1 < ds.length then none
  else some (n, rest)

/-- Read one number of an address of version four. -/
def octet : Scan UInt8 := UInt8.ofNat <$> number ⟨10, some 3, false, UInt8.size⟩

/-- Read an address of version four. -/
def octets : Scan Octets := do
  let a ← octet
  char '.'
  let b ← octet
  char '.'
  let c ← octet
  char '.'
  let d ← octet
  return ⟨a, b, c, d⟩

/-- Two numbers of version four make a group. -/
def joined (high low : UInt8) : UInt16 := UInt16.ofNat (256 * high.toNat + low.toNat)

/-- Read at most `n` groups with colons between them; the first of them has a colon before it unless
`first` holds. An address of version four can stand for the last two groups, and ends them: the second part
of the answer says so. -/
def groupsUpTo : (n : Nat) → (first : Bool) → Scan (List UInt16 × Bool)
  | 0, _ => return ([], false)
  | n + 1, first => do
    let separated {α : Type} (r : Scan α) : Scan α := do
      unless first do char ':'
      r
    match ← if 0 < n then perhaps (separated octets) else pure none with
    | some o => return ([joined o.a o.b, joined o.c o.d], true)
    | none =>
      match ← perhaps (separated (number ⟨16, some 4, true, UInt16.size⟩)) with
      | none => return ([], false)
      | some g =>
        let (gs, dotted) ← groupsUpTo n false
        return (UInt16.ofNat g :: gs, dotted)

/-- A list of eight groups as an address. -/
def ofList? (gs : List UInt16) : Option Groups :=
  if h : gs.toArray.size = 8 then some ⟨gs.toArray, h⟩ else none

/-- Read an address of version six: all its groups, or the ones before and after `::`, which stands for at
least one zero group. -/
def groups : Scan Groups := do
  let (head, dotted) ← groupsUpTo 8 true
  if head.length = 8 then ofList? head
  else if dotted then failure
  else
    char ':'
    char ':'
    let (tail, _) ← groupsUpTo (7 - head.length) true
    ofList? (head ++ List.replicate (8 - head.length - tail.length) 0 ++ tail)

/-- Read a colon and the number of a service. -/
def portNumber : Scan UInt16 := do
  char ':'
  return UInt16.ofNat (← number ⟨10, none, true, UInt16.size⟩)

/-- Read a per cent sign and the number of a scope. -/
def scope : Scan UInt32 := do
  char '%'
  return UInt32.ofNat (← number ⟨10, none, true, UInt32.size⟩)

end Net

open Net

/-- Where a service can be reached. -/
inductive SocketAddress where
  | v4 (address : Octets) (portNumber : UInt16)
  | v6 (address : Groups) (scope : UInt32) (portNumber : UInt16)
deriving DecidableEq, Repr

namespace SocketAddress

/-- Read an address of version four with its `portNumber`. -/
def scanV4 : Scan SocketAddress := do
  let address ← octets
  return .v4 address (← portNumber)

/-- Read an address of version six in brackets with its `portNumber`. -/
def scanV6 : Scan SocketAddress := do
  char '['
  let address ← groups
  let scope ← perhaps scope
  char ']'
  return .v6 address (scope.getD 0) (← portNumber)

/-- The address that a text stands for. -/
def parse? (s : String) : Option SocketAddress :=
  match (scanV4 <|> scanV6) s.toList with
  | some (address, []) => some address
  | _ => none

/-- The text of an address. -/
def render : SocketAddress → String
  | v4 address n => address.render ++ ":" ++ toString n.toNat
  | v6 address scope n =>
    "[" ++ Groups.render address ++ (if scope = 0 then "" else "%" ++ toString scope.toNat) ++ "]:" ++
      toString n.toNat

end SocketAddress

end OrderRelay
