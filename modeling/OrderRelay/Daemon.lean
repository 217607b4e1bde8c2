import OrderRelay.Services

/-!
# The life of a process

A process reads its settings, starts its services, and then listens until it is told to stop. It ends early
if a setting is invalid or the address cannot be listened on.

* `Failure`, why a process ended early, as it is reported;
* `Daemon.launch`, everything up to listening, with the lines logged by then;
* `Daemon.stop`, the orderly end.
-/

namespace OrderRelay

open Log

/-- Why a process ended early: what it was about to do, and what went wrong. -/
structure Failure where
  context : String
  cause : String
deriving DecidableEq, Repr

/-- A failure as it is reported. -/
def Failure.report (f : Failure) : String :=
  "Error: " ++ f.context ++ "\n\nCaused by:\n    " ++ f.cause ++ "\n"

/-- What came of a launch: the lines logged, and the services unless it failed. -/
structure Launch where
  lines : List Line
  result : Except Failure Services

namespace Daemon

/-- Reported when the settings were read. -/
def startingEntry (c : Config) : Entry :=
  info .process "starting orderflow"
    [("mode", .text c.mode.name), ("namespace", .text c.topology.namespaceName),
      ("topic", .text c.topology.baseTopic)]

/-- Reported because the servers of the configuration are not used. -/
def fallbackEntry (c : Config) : Entry :=
  warn .services "kafka feature not enabled, falling back to the in-memory bus"
    [("bootstrap_servers", .text c.servers)]

/-- Reported when the process listens. -/
def listeningEntry (address : String) : Entry := info .process ("listening on " ++ address) []

/-- Reported when the process is told to stop. -/
def signalEntry : Entry := info .process "shutdown signal received" []

/-- Reported when the signal is passed on to what listens. -/
def passingOnEntry : Entry :=
  trace .acceptor "received graceful shutdown signal. Telling tasks to shutdown" []

/-- Reported by what listens: it stops listening, and waits for the connections that are open. -/
def closingEntries (connections : Nat) : List Entry :=
  [trace .acceptor "signal received, not accepting new connections" [],
    trace .acceptor ("waiting for " ++ toString connections ++ " task(s) to finish") []]

/-- The services of a configuration on a bus of their own. -/
def services (c : Config) : Services :=
  let s := Services.start c (.ofPartitions c.partitions)
  { s with log := ⟨Services.mainThread, fallbackEntry c⟩ :: s.log }

/-- Start a process. `bind` begins to listen on an address: the answer is the address in the end, or why it
cannot be had. -/
def launch (settings : Settings) (bind : SocketAddress → Except String String) : Launch :=
  let lines := (Config.readEntries settings).map (Line.mk Services.mainThread)
  match Config.read settings with
  | .error e => ⟨lines, .error ⟨"invalid configuration", e.message⟩⟩
  | .ok c =>
    let s := services c
    let lines := lines ++ ⟨Services.mainThread, startingEntry c⟩ :: s.log
    match bind c.bindAddress with
    | .error reason => ⟨lines, .error ⟨"failed to bind " ++ c.bindAddress.render, reason⟩⟩
    | .ok address =>
      let s := { s with log := lines }.logged Services.mainThread [listeningEntry address]
      ⟨s.log, .ok s⟩

/-- Stop a process: it listens no more, no connection being open, and its workers finish what they are at, and
are waited for. -/
def stop (now : Int) (s : Services) : Services :=
  let s := s.logged Services.poolThread [signalEntry, passingOnEntry]
  (s.logged Services.mainThread (closingEntries 0)).shutdown now

end Daemon

end OrderRelay
