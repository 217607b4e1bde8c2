import OrderRelay.Log.Entry
import OrderRelay.Log.Pattern
import OrderRelay.Text.Utf8

/-!
# Filters

Which entries are shown is said by a list of directives with commas between them, such as
`warn,orderflow_api=info`. A directive names the beginning of a target, a level, or both; in brackets after
the target it can ask for a span or for a field. Of the directives that apply to an entry the most specific
one decides.

* `Directive`, `Directive.parse?`;
* `Filter`, `Filter.parse?`, which wants every directive to be right, and `Filter.ofValid`, which leaves out
  the ones that are not;
* `Filter.allows`;
* `Filter.choose`, the filter that is asked for, or else a usual one.
-/

namespace OrderRelay.Log

open Text

/-- One rule of a filter. It lets entries of at most the level `threshold` pass, none without one. -/
structure Directive where
  /-- What the targets begin with. -/
  target : Option String
  /-- It is about entries within a span, and there are no spans. -/
  spanned : Bool
  /-- The fields an entry must have. -/
  fields : List String
  threshold : Option Level
deriving DecidableEq, Repr

/-! ## Reading -/

/-- A text whose parts are found in another one: where `guide` has the end of a part, the part is taken from
`source`. Both go on by the same number of bytes. -/
structure Guided where
  guide : List UInt8
  source : List UInt8
deriving DecidableEq, Repr

namespace Guided

/-- Both without their first bytes. -/
def drop (r : Guided) (n : Nat) : Guided := ⟨r.guide.drop n, r.source.drop n⟩

/-- The part before the first byte of the guide that satisfies a test, if it is a text, and what comes from
there. -/
def cut (p : UInt8 → Bool) (r : Guided) : Option String × Guided :=
  let n := (r.guide.takeWhile fun b => !p b).length
  (textOf? (r.source.take n), r.drop n)

/-- All that is left, if it is a text. -/
def rest? (r : Guided) : Option String := textOf? r.source

end Guided

/-- The threshold that a name or a number stands for. The inner value is the threshold. -/
def threshold? (s : String) : Option (Option Level) :=
  match decimal? s with
  | some 0 => some none
  | some 1 => some (some .error)
  | some 2 => some (some .warn)
  | some 3 => some (some .info)
  | some 4 => some (some .debug)
  | some 5 => some (some .trace)
  | _ =>
    let lower := s.map Char.toLower
    if lower = "off" then some none
    else ([Level.error, .warn, .info, .debug, .trace].find? (·.name == lower)).map some

namespace Directive

/-- A directive can begin with this character. -/
def canBegin (c : Char) : Bool := isWordChar c || c == '-' || c == ':' || c == '_'

/-- What follows the target or the brackets: nothing, or an equals sign and a level. Without a level,
everything passes. -/
def level? (r : Guided) : Option (Option Level) :=
  match r.guide with
  | [] => some (some .trace)
  | 0x3D :: _ => do
    let name ← (r.drop 1).rest?
    if name = "" then some (some .trace) else threshold? name
  | _ => none

/-- The name of a field, and whether it has a value after an equals sign. A second such sign ends the
value, and the rest is passed over. -/
def field? (text : String) : Option (String × Bool) :=
  match text.splitOn "=" with
  | name :: value :: _ => if isValue value then some (name, true) else none
  | name :: [] => if name = "" then none else some (name, false)
  | [] => none

/-- What stands in brackets after a target: the name of a span, and in braces a field. A field with a value
is one of a span. -/
def bracket? (target : Option String) (r : Guided) : Option Directive := do
  let (span?, r) := r.cut fun b => b == 0x5D || b == 0x7B
  match r.guide with
  | 0x5D :: _ => return ⟨target, true, [], ← level? (r.drop 1)⟩
  | 0x7B :: _ =>
    let (text?, r) := (r.drop 1).cut (· == 0x7D)
    match r.guide with
    | 0x7D :: 0x5D :: _ =>
      let (name, valued) ← field? (← text?)
      return ⟨target, (← span?) ≠ "" || valued, [name], ← level? (r.drop 2)⟩
    | _ => none
  | _ => none

/-- A directive without an equals sign and without brackets: a level, or a target. -/
def plain (s : String) : Directive :=
  match threshold? s with
  | some l => ⟨none, false, [], l⟩
  | none => ⟨some s, false, [], some .trace⟩

/-- The directive that a text stands for. Blanks at the ends are passed over in search of its parts, but the
parts are then taken from the whole text, by the same counts: a level or a target with blanks around it is
not what it would be without. -/
def parse? (s : String) : Option Directive := do
  let r : Guided := ⟨bytesOf (trim s), bytesOf s⟩
  let c ← (trim s).toList.head?
  if c = '[' then bracket? none (r.drop 1)
  else if !canBegin c then none
  else
    let (target?, r) := r.cut fun b => b == 0x3D || b == 0x5B
    match r.guide with
    | [] => return plain s
    | 0x5B :: _ => bracket? (some (← target?)) (r.drop 1)
    | _ => return ⟨some (← target?), false, [], ← level? r⟩

/-! ## Deciding -/

/-- The directive has something to say about an entry. -/
def applies (d : Directive) (e : Entry) : Bool :=
  !d.spanned && d.target.all (fun t => t.isPrefixOf e.source.target) &&
    d.fields.all fun f => f == "message" || e.fields.any (·.1 == f)

/-- How specific a directive is: the length of its target, one without a target being the least, then
its fields. -/
def weight (d : Directive) : Nat × Nat :=
  ((d.target.map fun t => t.utf8ByteSize + 1).getD 0, d.fields.length)

/-- The order of texts, by their characters. -/
def precedes (s t : String) : Bool := s.toList.lex t.toList fun c d => c.toNat < d.toNat

/-- The first of two directives that apply is at most as specific as the second. -/
def yields (a b : Directive) : Bool :=
  let (m, n) := a.weight
  let (m', n') := b.weight
  m < m' || (m == m' && (n < n' || (n == n' && !b.fields.lex a.fields precedes)))

/-- An entry passes the threshold. -/
def passes (d : Directive) (e : Entry) : Bool :=
  d.threshold.any fun l => e.level.verbosity ≤ l.verbosity

end Directive

/-- The rules by which entries are shown. -/
abbrev Filter := List Directive

namespace Filter

/-- The texts of single directives. -/
def parts (s : String) : List String := (s.splitOn ",").filter (· ≠ "")

/-- The filter that a text stands for, if all its directives are right. Without any, nothing is shown. -/
def parse? (s : String) : Option Filter := (parts s).mapM Directive.parse?

/-- The filter of the right directives in a text. Without any, errors are shown. -/
def ofValid (s : String) : Filter :=
  match (parts s).filterMap Directive.parse? with
  | [] => [⟨none, false, [], some .error⟩]
  | ds => ds

/-- The directive that decides about an entry: the most specific that applies, the last of equals. -/
def deciding (f : Filter) (e : Entry) : Option Directive :=
  (f.filter (·.applies e)).foldl
    (fun best d => match best with
      | some b => if b.yields d then some d else some b
      | none => some d) none

/-- The entry is shown. -/
def allows (f : Filter) (e : Entry) : Bool := (f.deciding e).any (·.passes e)

/-- The filter that was asked for, if that is right, or else the usual one. -/
def choose (asked : Option String) (usual : String) : Filter :=
  (asked.bind parse?).getD (ofValid usual)

/-- What is usually shown. -/
def usual : String := "info"

end Filter

end OrderRelay.Log
