import OrderRelay.Text.Blank
import OrderRelay.Text.Digits
import OrderRelay.Text.Letters

/-!
# Patterns for values

In a filter a field can be given a value: a number, or else a regular expression for the texts it may have.
Here it is only told whether a text is such a value.

* `isNumber`, the decimal numbers, infinity and the like;
* `Escape.read?`, what stands after a backslash; `Bracket.pass?`, a set of characters in brackets;
* `Row`, the height of what is nested in a regular expression, which has a limit;
* `isPattern`, the regular expressions; `isValue`, numbers and regular expressions.

A regular expression describes texts, and it knows nothing about characters beyond ASCII but their order. So
as long as it speaks of all characters, which is usual, it can have no classes of digits, blanks or letters,
no boundaries of words, and no characters without regard to case. After the flag `-u` it can have these, but
nothing that a byte of a longer character could match.
-/

namespace OrderRelay.Log

open Text

/-! ## Numbers -/

/-- Drop one sign. -/
def withoutSign : List Char → List Char
  | '+' :: cs => cs
  | '-' :: cs => cs
  | cs => cs

/-- What can follow the digits of a number: nothing, or an exponent. -/
def isExponent : List Char → Bool
  | [] => true
  | e :: cs => (e == 'e' || e == 'E') && !(withoutSign cs).isEmpty && (withoutSign cs).all Char.isDigit

/-- A number: digits with a point or without, and perhaps an exponent, or the name of what is no finite
number. -/
def isNumber (cs : List Char) : Bool :=
  let body := withoutSign cs
  let (whole, rest) := body.span Char.isDigit
  let (part, rest) := match rest with
    | '.' :: rest => rest.span Char.isDigit
    | _ => ([], rest)
  ["inf", "infinity", "nan"].contains (String.ofList (body.map Char.toLower)) ||
    (!(whole.isEmpty && part.isEmpty) && isExponent rest)

/-! ## Flags -/

/-- How a part of a regular expression is read. -/
structure Flags where
  /-- Blanks and comments stand between its parts. -/
  spaced : Bool
  /-- It speaks of all characters, not of ASCII alone. -/
  unicode : Bool
  /-- Small and capital letters are the same. -/
  caseless : Bool
deriving DecidableEq, Repr

namespace Flags

/-- The flags at the beginning. -/
def usual : Flags := ⟨false, true, false⟩

/-- Drop blanks, and comments from a sharp to the end of its line. `comment` tells that one has begun. -/
def dropBlanks (comment : Bool) : List Char → List Char
  | [] => []
  | c :: cs =>
    if comment then dropBlanks (c != '\n') cs
    else if isBlank c then dropBlanks false cs
    else if c == '#' then dropBlanks true cs
    else c :: cs

/-- What comes next, past what stands between the parts. -/
def ahead (f : Flags) (cs : List Char) : List Char := if f.spaced then dropBlanks false cs else cs

/-- The character after a hyphen. A comment hides nothing from this look but the sharp it begins with. -/
def glance (f : Flags) (cs : List Char) : Option Char :=
  if f.spaced then
    match cs.dropWhile isBlank with
    | '#' :: cs => (cs.dropWhile isBlank).head?
    | cs => cs.head?
  else cs.head?

/-- A character can stand for itself. -/
def allowsLiteral (f : Flags) : Bool := !(f.unicode && f.caseless)

/-- Set or clear a flag. The other flags make no difference to what is allowed. -/
def set (f : Flags) (name : Char) (value : Bool) : Flags :=
  if name = 'x' then { f with spaced := value }
  else if name = 'u' then { f with unicode := value }
  else if name = 'i' then { f with caseless := value }
  else f

/-- Take flags up to a colon or a closing parenthesis. The flags after a hyphen are cleared. There must be
one after it, and none may come twice. The answer begins with that last character. -/
def read? (f : Flags) (seen : List Char) : List Char → Option (Flags × List Char × List Char)
  | [] => none
  | c :: cs =>
    if c == ':' || c == ')' then
      if seen.head? = some '-' then none else some (f, seen, c :: cs)
    else if seen.contains c || !"imsUuRx-".toList.contains c then none
    else read? (f.set c (!seen.contains '-')) (c :: seen) cs

end Flags

/-! ## Escapes -/

/-- What a backslash and the characters after it stand for. -/
inductive Escape where
  /-- A character, and whether it is given as a byte of two digits. -/
  | character (c : Char) (byte : Bool)
  /-- A class of digits, blanks or letters, or all others. -/
  | charClass (negated : Bool)
  /-- The beginning or the end of the text. -/
  | edge
  /-- The beginning or the end of a word, or neither. -/
  | wordBoundary
deriving DecidableEq, Repr

namespace Escape

/-- Take the number of a character in base sixteen. -/
def code? (f : Flags) : (digits value : Nat) → List Char → Option (Nat × List Char)
  | 0, value, cs => some (value, f.ahead cs)
  | digits + 1, value, cs =>
    match f.ahead cs with
    | [] => none
    | c :: cs => (digit? 16 c).bind fun d => code? f digits (16 * value + d) cs

/-- The number is the code point of a character. -/
def isCharacter (n : Nat) : Bool := n < 0xD800 || (0xDFFF < n && n < 0x110000)

/-- Take a character given by its number. -/
def numbered? (f : Flags) (digits : Nat) (cs : List Char) : Option (Escape × List Char) :=
  (code? f digits 0 cs).bind fun (n, cs) =>
    if isCharacter n then some (character (Char.ofNat n) (digits = 2), cs) else none

/-- Take what follows a backslash. -/
def read? (f : Flags) : List Char → Option (Escape × List Char)
  | [] => none
  | c :: cs =>
    if c = 'x' then numbered? f 2 cs
    else if c = 'u' then numbered? f 4 cs
    else if c = 'U' then numbered? f 8 cs
    else if c = 'd' ∨ c = 's' ∨ c = 'w' then some (charClass false, cs)
    else if c = 'D' ∨ c = 'S' ∨ c = 'W' then some (charClass true, cs)
    else if c = 'A' ∨ c = 'z' then some (edge, cs)
    else if c = 'b' ∨ c = 'B' ∨ c = '<' ∨ c = '>' then some (wordBoundary, cs)
    else match "aftnrv".toList.idxOf? c with
      | some i => (['\x07', '\x0c', '\t', '\n', '\x0d', '\x0b'][i]?).map fun c => (character c false, cs)
      | none => if c.toNat < 128 ∧ !c.isAlphanum then some (character c false, cs) else none

/-- The escape can stand outside of brackets. -/
def isAllowed (f : Flags) : Escape → Bool
  | character c byte => f.allowsLiteral && (f.unicode || !byte || c.toNat < 128)
  | charClass negated => !f.unicode && !negated
  | edge => true
  | wordBoundary => !f.unicode

/-- The escape can stand in brackets. -/
def isAllowedInBrackets (f : Flags) : Escape → Bool
  | character c _ => f.allowsLiteral && (f.unicode || c.toNat < 128)
  | charClass negated => !f.unicode && !negated
  | edge => false
  | wordBoundary => false

end Escape

/-! ## Nesting -/

/-- The greatest height of a regular expression. -/
def greatestHeight : Nat := 250

/-- Parts next to each other. A single character has no height. Groups, repetitions, sets, and several parts
in a row are one higher than the highest of their parts. -/
structure Row where
  count : Nat
  /-- The height of the highest part before the last one. -/
  before : Nat
  /-- The height of the last part. -/
  last : Nat
deriving DecidableEq, Repr

namespace Row

/-- No parts. -/
def empty : Row := ⟨0, 0, 0⟩

/-- One more part. -/
def add (r : Row) (height : Nat) : Row := ⟨r.count + 1, max r.before r.last, height⟩

/-- The last part is repeated. -/
def raise (r : Row) : Row := { r with last := r.last + 1 }

/-- The height of all of them. A row of a single part is this part. -/
def height (r : Row) : Nat := if r.count ≤ 1 then r.last else max r.before r.last + 1

/-- Two things side by side are one higher than the higher of them; the first may be missing. -/
def beside (first : Option Nat) (second : Nat) : Nat :=
  match first with
  | some h => max h second + 1
  | none => second

end Row

/-! ## Brackets -/

namespace Bracket

/-- A set whose closing bracket is still to come. -/
structure Open where
  /-- The height of what stands before the last sign for a common part or a difference. -/
  before : Option Nat
  row : Row
deriving DecidableEq, Repr

namespace Open

/-- One more character, class or range. -/
def add (o : Open) (height : Nat) : Open := { o with row := o.row.add height }

/-- The height of what has been read. -/
def height (o : Open) : Nat := Row.beside o.before o.row.height

/-- Read the sign for a common part or a difference. -/
def operate (o : Open) : Open := ⟨some o.height, .empty⟩

end Open

/-- The classes that have a name. -/
def classNames : List String :=
  ["alnum", "alpha", "ascii", "blank", "cntrl", "digit", "graph", "lower", "print", "punct", "space",
    "upper", "word", "xdigit"]

/-- Take a named class after its first bracket, such as `:alpha:]`; tell whether it is negated. -/
def named? : List Char → Option (Bool × List Char)
  | ':' :: cs =>
    let (negated, cs) := match cs with
      | '^' :: cs => (true, cs)
      | _ => (false, cs)
    match cs.span (· != ':') with
    | (name, ':' :: ']' :: cs) =>
      if classNames.contains (String.ofList name) then some (negated, cs) else none
    | _ => none
  | _ => none

/-- Take hyphens, and what stands between them. -/
def hyphens (f : Flags) : (fuel : Nat) → Open → List Char → Open × List Char
  | fuel + 1, o, '-' :: cs => hyphens f fuel (o.add 0) (f.ahead cs)
  | _, o, cs => (o, cs)

/-- Take what can only stand at the beginning, after an opening bracket: a caret, hyphens, and without
these a closing bracket. Something must come after it. -/
def open? (f : Flags) (cs : List Char) : Option (Open × List Char) :=
  let (negated, cs) := match f.ahead cs with
    | '^' :: cs => (true, f.ahead cs)
    | cs => (false, cs)
  let start : Open := ⟨none, .empty⟩
  let (o, cs) := match cs with
    | ']' :: cs => (start.add 0, f.ahead cs)
    | cs => hyphens f cs.length start cs
  if (negated && !f.unicode) || (o.row.count != 0 && !f.allowsLiteral) || cs.isEmpty then none
  else some (o, cs)

/-- Take one character or class. -/
def item? (f : Flags) : List Char → Option (Escape × List Char)
  | [] => none
  | '\\' :: cs => Escape.read? f cs
  | c :: cs => some (.character c false, cs)

/-- Two ends of a range in the right order. -/
def isRange : Escape → Escape → Bool
  | .character low _, .character high _ => low ≤ high
  | _, _ => false

/-- Take a character, a class, or a range of characters. -/
def range? (f : Flags) (cs : List Char) : Option (List Char) := do
  let (low, cs) ← item? f cs
  if !low.isAllowedInBrackets f then none
  match f.ahead cs with
  | '-' :: rest =>
    if f.glance rest = some ']' ∨ f.glance rest = some '-' then some ('-' :: rest)
    else
      let (high, cs) ← item? f (f.ahead rest)
      if high.isAllowedInBrackets f ∧ isRange low high then some cs else none
  | cs => some cs

/-- Take the rest of a set, which stands in the sets `outer`. The answer begins with its height. -/
def loop? (f : Flags) : (fuel : Nat) → (outer : List Open) → Open → List Char → Option (Nat × List Char)
  | 0, _, _, _ => none
  | fuel + 1, outer, o, cs =>
    match f.ahead cs with
    | [] => none
    | ']' :: cs =>
      match outer with
      | [] => some (o.height + 1, cs)
      | parent :: outer => loop? f fuel outer (parent.add (o.height + 1)) cs
    | '&' :: '&' :: cs => loop? f fuel outer o.operate cs
    | '-' :: '-' :: cs => loop? f fuel outer o.operate cs
    | '~' :: '~' :: cs => loop? f fuel outer o.operate cs
    | '[' :: cs =>
      match named? cs with
      | some (negated, cs) =>
        if f.allowsLiteral && (f.unicode || !negated) then loop? f fuel outer (o.add 0) cs else none
      | none => (open? f cs).bind fun (inner, cs) => loop? f fuel (o :: outer) inner cs
    | cs => (range? f cs).bind (loop? f fuel outer (o.add 0))

/-- Take a set of characters after its opening bracket. Each step takes at least one character. -/
def pass? (f : Flags) (cs : List Char) : Option (Nat × List Char) :=
  (open? f cs).bind fun (o, rest) => loop? f (cs.length + 1) [] o rest

end Bracket

/-! ## Regular expressions -/

namespace Pattern

/-- What has been read of a group, or of the whole. -/
structure Group where
  /-- The height of the alternatives before the last one. -/
  before : Option Nat
  row : Row
  /-- The last part can be repeated. -/
  repeatable : Bool
deriving DecidableEq, Repr

namespace Group

/-- Nothing yet. -/
def start : Group := ⟨none, .empty, false⟩

/-- One more part. -/
def add (g : Group) (height : Nat) : Group := { g with row := g.row.add height, repeatable := true }

/-- Flags count as a part that cannot be repeated. -/
def addFlags (g : Group) : Group := { g with row := g.row.add 0, repeatable := false }

/-- The alternative ends. -/
def close (g : Group) : Group := ⟨some (max (g.before.getD 0) g.row.height), .empty, false⟩

/-- The height of what has been read. -/
def height (g : Group) : Nat := Row.beside g.before g.row.height

end Group

/-- What has been read so far. -/
structure State where
  flags : Flags
  group : Group
  /-- For each group that is still open, the innermost first: the flags that hold again after it, and what
  has been read before it. -/
  outer : List (Flags × Group)
  /-- The names of groups. -/
  names : List String
deriving DecidableEq, Repr

namespace State

/-- The beginning. -/
def start : State := ⟨.usual, .start, [], []⟩

/-- One more part. -/
def add (s : State) (height : Nat) : State := { s with group := s.group.add height }

/-- Open a group with these flags. -/
def enter (s : State) (flags : Flags) : State :=
  { s with flags, group := .start, outer := (s.flags, s.group) :: s.outer }

/-- Close the innermost group. -/
def leave? (s : State) : Option State :=
  match s.outer with
  | [] => none
  | (flags, group) :: outer => some { s with flags, group := group.add (s.group.height + 1), outer }

/-- Repeat the last part. -/
def again? (s : State) : Option State :=
  if s.group.repeatable then some { s with group := { s.group with row := s.group.row.raise } } else none

/-- Nothing is missing, and nothing is too high. -/
def isComplete (s : State) : Bool := s.outer.isEmpty && s.group.height ≤ greatestHeight

end State

/-- Take the name of a group and the bracket after it. -/
def groupName? (cs : List Char) : Option (String × List Char) :=
  match cs.span (· != '>') with
  | (c :: name, '>' :: rest) =>
    if (c == '_' || isLetter c) && name.all (fun c => "_.[]".toList.contains c || isWordChar c) then
      some (String.ofList (c :: name), rest)
    else none
  | _ => none

/-- Open a group with a name, which no other group has. -/
def named? (s : State) (cs : List Char) : Option (State × List Char) :=
  (groupName? cs).bind fun (name, cs) =>
    if s.names.contains name then none
    else some ({ s with names := name :: s.names }.enter s.flags, cs)

/-- Take what follows an opening parenthesis: a name or flags, if there are any. Flags without a group hold
up to the end of the group around them. What stands before or behind cannot be asked for. -/
def group? (s : State) (cs : List Char) : Option (State × List Char) :=
  match s.flags.ahead cs with
  | '?' :: 'P' :: '<' :: cs => named? s cs
  | '?' :: '<' :: '!' :: _ => none
  | '?' :: '<' :: '=' :: _ => none
  | '?' :: '<' :: cs => named? s cs
  | '?' :: cs =>
    match s.flags.read? [] cs with
    | some (flags, _, ':' :: cs) => some (s.enter flags, cs)
    | some (flags, _ :: _, ')' :: cs) => some ({ s with flags, group := s.group.addFlags }, cs)
    | _ => none
  | cs => some (s.enter s.flags, cs)

/-- Take the question mark that can follow a sign of repetition. -/
def dropLazy : List Char → List Char
  | '?' :: cs => cs
  | cs => cs

/-- Take one part of a regular expression. Counts in braces are refused, for no value holds a closing
brace. -/
def step? (s : State) : List Char → Option (State × List Char)
  | [] => none
  | '(' :: cs => group? s cs
  | ')' :: cs => s.leave?.map (·, cs)
  | '|' :: cs => some ({ s with group := s.group.close }, cs)
  | '[' :: cs => (Bracket.pass? s.flags cs).map fun (height, cs) => (s.add height, cs)
  | '\x7b' :: _ => none
  | '\\' :: cs =>
    (Escape.read? s.flags cs).bind fun (e, cs) =>
      if e.isAllowed s.flags then some (s.add 0, cs) else none
  | c :: cs =>
    if c = '?' ∨ c = '*' ∨ c = '+' then s.again?.map (·, dropLazy cs)
    else if c = '^' ∨ c = '$' ∨ (if c = '.' then s.flags.unicode else s.flags.allowsLiteral) then
      some (s.add 0, cs)
    else none

/-- The rest is right, and closes every group. -/
def completes : (fuel : Nat) → State → List Char → Bool
  | 0, _, _ => false
  | fuel + 1, s, cs =>
    match s.flags.ahead cs with
    | [] => s.isComplete
    | cs => (step? s cs).any fun (s, cs) => completes fuel s cs

end Pattern

/-- The text is a regular expression. Each step takes at least one character. -/
def isPattern (cs : List Char) : Bool := Pattern.completes (cs.length + 1) .start cs

/-- The text can be the value of a field. -/
def isValue (s : String) : Bool := isNumber s.toList || isPattern s.toList

end OrderRelay.Log
