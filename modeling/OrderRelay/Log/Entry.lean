/-!
# Log entries

What the program reports while it runs. An entry has a level, the part of the program it comes from, a
message and named values.

* `Level`, `Source` and its `target`, the name by which filters address a part of the program;
* `Value`, a text, a number or a flag, and its text `Value.render`;
* `Entry` and one constructor per level.
-/

namespace OrderRelay.Log

/-- How serious an entry is, the most serious first. -/
inductive Level where
  | error
  | warn
  | info
  | debug
  | trace
deriving DecidableEq, Repr

/-- How much a level lets through: an entry passes a filter of at least its own verbosity. -/
def Level.verbosity : Level → Nat
  | error => 1
  | warn => 2
  | info => 3
  | debug => 4
  | trace => 5

/-- The name of a level in lower case. -/
def Level.name : Level → String
  | error => "error"
  | warn => "warn"
  | info => "info"
  | debug => "debug"
  | trace => "trace"

/-- The parts of the program that report something. -/
inductive Source where
  | process
  | configuration
  | services
  | trigger
  | handler
  | bus
  | recovery
  | processor
  | worker
  | acceptor
deriving DecidableEq, Repr

/-- The name by which a filter addresses a part of the program. -/
def Source.target : Source → String
  | process => "orderflow"
  | configuration => "orderflow_infra::config"
  | services => "orderflow_api::app::services"
  | trigger => "orderflow_api::app::routes::admin"
  | handler => "orderflow_api::handler"
  | bus => "orderflow_events::in_memory_bus"
  | recovery => "orderflow_infra::recovery"
  | processor => "orderflow_infra::tier_processor"
  | worker => "orderflow_infra::workers::tier_worker"
  | acceptor => "axum::serve"

/-- A value reported with an entry. -/
inductive Value where
  | text (s : String)
  | number (n : Int)
  | flag (b : Bool)
deriving DecidableEq, Repr

/-- A value as a text. -/
def Value.render : Value → String
  | text s => s
  | number n => toString n
  | flag b => if b then "true" else "false"

/-- One report. -/
structure Entry where
  level : Level
  source : Source
  message : String
  fields : List (String × Value)
deriving DecidableEq, Repr

/-- A report of a failure that cost something. -/
def error (source : Source) (message : String) (fields : List (String × Value)) : Entry :=
  ⟨.error, source, message, fields⟩

/-- A report of something that may need attention. -/
def warn (source : Source) (message : String) (fields : List (String × Value)) : Entry :=
  ⟨.warn, source, message, fields⟩

/-- A report of normal progress. -/
def info (source : Source) (message : String) (fields : List (String × Value)) : Entry :=
  ⟨.info, source, message, fields⟩

/-- A report of detail. -/
def debug (source : Source) (message : String) (fields : List (String × Value)) : Entry :=
  ⟨.debug, source, message, fields⟩

/-- A report of a single step. -/
def trace (source : Source) (message : String) (fields : List (String × Value)) : Entry :=
  ⟨.trace, source, message, fields⟩

end OrderRelay.Log
