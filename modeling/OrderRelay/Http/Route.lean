/-!
# Routes

A pattern is a path with parameters: a colon in one of its segments begins the name of a parameter, which
stands for the rest of that segment. All else has to be there letter by letter. The values of parameters are
taken as they stand in the path, escapes and all.

* `Piece`, `Pattern`, `Pattern.ofString`;
* `Pattern.match?`, the parameters of a path with their values.
-/

namespace OrderRelay.Http

/-- One segment of a pattern. -/
inductive Piece where
  | exact (text : String)
  /-- What the segment begins with, and the name of the rest. -/
  | parameter (head name : String)
deriving DecidableEq, Repr

/-- The segments of a pattern. -/
abbrev Pattern := List Piece

namespace Piece

/-- A segment of a pattern. -/
def ofString (s : String) : Piece :=
  match s.toList.span (· != ':') with
  | (head, ':' :: name) => parameter (String.ofList head) (String.ofList name)
  | _ => exact s

/-- The parameter of a segment with its value, if there is one; nothing at all if the segment is another. A
parameter may be empty, except in the last segment. -/
def match? (last : Bool) (segment : String) : Piece → Option (Option (String × String))
  | exact text => if segment = text then some none else none
  | parameter head name =>
    if head.isPrefixOf segment && !(last && segment == head) then
      some (some (name, (segment.drop head.length).toString))
    else none

end Piece

namespace Pattern

/-- The pattern that a text stands for. -/
def ofString (s : String) : Pattern := (s.splitOn "/").map Piece.ofString

/-- The parameters of segments, in order. There must be as many segments as in the pattern. -/
def matchSegments? : Pattern → List String → Option (List (String × String))
  | [], [] => some []
  | piece :: pattern, segment :: segments => do
    let parameter ← piece.match? segments.isEmpty segment
    let parameters ← matchSegments? pattern segments
    return parameter.toList ++ parameters
  | _, _ => none

/-- The parameters of a path. -/
def match? (pattern : Pattern) (path : String) : Option (List (String × String)) :=
  matchSegments? pattern (path.splitOn "/")

end Pattern

end OrderRelay.Http
