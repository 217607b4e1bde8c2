import OrderRelay.Http.Route
import OrderRelay.Http.Target
import OrderRelay.Json.Forms
import OrderRelay.Services

/-!
# The interface over HTTP

Three things can be asked of the services: whether they are there, how they are, and to put an order onto the
main channel.

* `Request`, `Response`;
* `Endpoint`, what a path is for, `Endpoint.find?`, and the methods an endpoint understands;
* `respond`, the answer to a request and the services after it.
-/

namespace OrderRelay

open Log

namespace Http

/-- What is asked. The body of a request is never read. -/
structure Request where
  method : String
  target : String
deriving DecidableEq, Repr

/-- An answer. -/
structure Response where
  status : Nat
  contentType : Option String
  /-- The methods that would have been understood. -/
  allow : Option String
  body : String
deriving DecidableEq, Repr

namespace Response

/-- An answer without a body. -/
def empty (status : Nat) : Response := ⟨status, none, none, ""⟩

/-- An answer with a JSON body. -/
def json (status : Nat) (v : Json.Value) : Response :=
  ⟨status, some "application/json", none, Json.render v⟩

/-- An answer with a plain text. -/
def plain (status : Nat) (text : String) : Response :=
  ⟨status, some "text/plain; charset=utf-8", none, text⟩

/-- The answer that names an error. -/
def error (status : Nat) (code message : String) : Response :=
  json status (.object [("error", .text code), ("message", .text message)])

/-- The answer to a method that is not understood. -/
def notAllowed (allow : String) : Response := ⟨405, none, some allow, ""⟩

/-- The same answer without its body. -/
def withoutBody (r : Response) : Response := { r with body := "" }

end Response

/-! ## Endpoints -/

/-- What a path is for. -/
inductive Endpoint where
  | health
  | status
  /-- A new order, with the parameters of the path that count. -/
  | inject (parameters : List (String × String))
deriving DecidableEq, Repr

namespace Endpoint

/-- What the names of parameters begin with that are set aside for the matching of paths itself. -/
def reservedNames : List String := ["__private__axum_nest_tail_param", "__private__axum_fallback"]

/-- A parameter counts unless its name is set aside. -/
def counts (parameter : String × String) : Bool :=
  !reservedNames.any fun name => name.isPrefixOf parameter.1

/-- The pattern of the paths for new orders. -/
def injectPattern (c : Config) : Pattern := .ofString (c.triggerPath ++ "/:kind/:order")

/-- What a path is for, if it is known. -/
def find? (c : Config) (path : String) : Option Endpoint :=
  if path = "/health" then some .health
  else if path = "/status" then some .status
  else ((injectPattern c).match? path).map fun parameters => .inject (parameters.filter counts)

/-- The methods an endpoint understands. Where a body can be asked for, so can an answer without it. -/
def methods : Endpoint → List String
  | health => ["GET", "HEAD"]
  | status => ["GET", "HEAD"]
  | inject _ => ["PUT"]

end Endpoint

end Http

/-! ## JSON forms -/

/-- The counters of a worker. -/
def Stats.toJson (s : Stats) : Json.Value :=
  .object [("tier", s.tier.toJson), ("channel", .text s.channel), ("processed", .number s.processed),
    ("succeeded", .number s.succeeded), ("republished", .number s.republished),
    ("dropped", .number s.dropped), ("redelivered", .number s.redelivered),
    ("held_back", .number s.heldBack), ("finished", .flag s.finished)]

/-- The last offset of a window, with its partition. -/
def Sweep.snapshotToJson (snapshot : Int × Int) : Json.Value :=
  .object [("partition", .number snapshot.1), ("recovery_offset", .number snapshot.2)]

/-- Where a new order was stored. -/
def Injected.toJson (i : Injected) : Json.Value :=
  .object [("channel", .text i.channel), ("partition", .number i.position.partition),
    ("offset", .number i.position.offset), ("reference_uri", .text i.referenceUri)]

/-- How the services are. -/
def Services.toJson (s : Services) : Json.Value :=
  .object [("mode", .text s.config.mode.name), ("namespace", .text s.config.topology.namespaceName),
    ("tiers", .list (s.stats.map Stats.toJson)),
    ("recovery", .list (s.snapshots.map Sweep.snapshotToJson))]

namespace Http

/-! ## New orders -/

/-- The parameters of a path without their escapes, or the name of the first that is no text. -/
def decodeParameters : List (String × String) → Except String (List String)
  | [] => .ok []
  | (name, value) :: rest =>
    match decodePercent value with
    | none => .error name
    | some text => (decodeParameters rest).map (text :: ·)

/-- Reported when a new order is asked for. Its kind is only reported. -/
def receivedEntry (kind order : String) : Entry :=
  info .trigger "admin trigger received" [("kind", .text kind), ("order", .text order)]

/-- The answer to an order that was not stored. -/
def refusal (e : InjectError) : Response :=
  match e with
  | .reference _ => .error 400 "invalid_order_reference" e.message
  | .codec _ => .error 500 "encoding_error" e.message
  | .publish _ => .error 502 "publish_error" e.message

/-- Put the order that the parameters name onto the main channel: the first one is its kind, the second
the order. -/
def injectOrder (now : Int) (parameters : List (String × String)) (s : Services) : Response × Services :=
  match decodeParameters parameters with
  | .error name => (.plain 400 ("Invalid URL: Invalid UTF-8 in `" ++ name ++ "`"), s)
  | .ok values =>
    let kind := values[0]?.getD ""
    let order := values[1]?.getD ""
    let s := s.logged Services.poolThread [receivedEntry kind order]
    match s.inject now order with
    | .ok (injected, s) => (.json 200 injected.toJson, s)
    | .error e => (refusal e, s)

/-! ## Answers -/

/-- The characters of a method. -/
def isMethodChar (c : Char) : Bool := c.isAlphanum || "!#$%&'*+-.^_`|~".toList.contains c

/-- The answer of an endpoint to a method that it understands. -/
def answer (now : Int) (s : Services) : Endpoint → Response × Services
  | .health => (.empty 200, s)
  | .status => (.json 200 s.toJson, s)
  | .inject parameters => injectOrder now parameters s

/-- The answer to a request for a path. -/
def route (now : Int) (method path : String) (s : Services) : Response × Services :=
  match Endpoint.find? s.config path with
  | none => (.empty 404, s)
  | some endpoint =>
    if endpoint.methods.contains method then
      let (response, s) := answer now s endpoint
      (if method = "HEAD" then response.withoutBody else response, s)
    else (.notAllowed (",".intercalate endpoint.methods), s)

/-- The answer to a request, unless it is refused before anything is asked. -/
def respond (now : Int) (r : Request) (s : Services) : Except TargetError (Response × Services) := do
  if r.method = "" || !r.method.toList.all isMethodChar then throw .invalidMethod
  let path ← Target.path r.target
  return route now r.method path s

end Http

end OrderRelay
