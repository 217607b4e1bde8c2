import OrderRelay.Json.Value
import OrderRelay.Log.Filter

/-!
# Log lines

An entry is shown as one JSON object: its level, its message, its values as members of their own, and the
thread it came from.

* `Line`, an entry with its thread, and `Line.toJson`;
* `shown`, the lines that a filter lets pass.
-/

namespace OrderRelay.Log

/-- An entry and the thread that reported it. -/
structure Line where
  thread : String
  entry : Entry
deriving DecidableEq, Repr

/-- A reported value. -/
def Value.toJson : Value → Json.Value
  | text s => .text s
  | number n => .number n
  | flag b => .flag b

/-- The object that is shown for a line. -/
def Line.toJson (l : Line) : Json.Value :=
  .object (("level", .text (l.entry.level.name.map Char.toUpper)) ::
    ("message", .text l.entry.message) :: l.entry.fields.map (fun f => (f.1, f.2.toJson)) ++
      [("threadName", .text l.thread)])

/-- The lines that a filter lets pass. -/
def shown (f : Filter) (ls : List Line) : List Line := ls.filter fun l => f.allows l.entry

end OrderRelay.Log
