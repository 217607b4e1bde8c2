import OrderRelay.Http.Api
import OrderRelay.Daemon

/-!
# The command line

Runs a process with the settings of the environment. Log lines go to the output as they are reported.
Requests are read from the input, a method and a target on each line; the answer is its status and its body.
The process stops at the end of the input. A process that cannot start says why and exits with code 1.
-/

namespace OrderRelay.CommandLine

open Log

/-- The settings that the environment gives. -/
def readSettings : IO Settings := do
  let all : List Setting := [.recoveryFlag, .namespaceName, .baseTopic, .servers, .publishTimeout,
    .pollInterval, .partitions, .bindAddress, .triggerPath]
  let values ← all.mapM fun s => return (s, ← IO.getEnv s.name)
  return fun s => (values.lookup s).join

/-- Print the lines that the filter lets pass. -/
def print (filter : Filter) (lines : List Line) : IO Unit :=
  (shown filter lines).forM fun l => IO.println (Json.render l.toJson)

/-- Print what the services have logged since then, and go on without it. -/
def flush (filter : Filter) (s : Services) : IO Services := do
  print filter s.log
  return { s with log := [] }

/-- Answer one line of input. -/
def answer (line : String) (s : Services) : IO Services := do
  let (method, target) := match line.splitOn " " with
    | method :: rest => (method, " ".intercalate rest)
    | [] => ("", "")
  let now ← IO.monoMsNow
  match Http.respond now ⟨method, target⟩ s with
  | .error e => do
    IO.println e.message
    return s
  | .ok (response, s) => do
    IO.println (toString response.status ++ " " ++ response.body)
    return s.catchUp now

/-- Answer all lines of input. -/
partial def serve (filter : Filter) (input : IO.FS.Stream) (s : Services) : IO Services := do
  let line ← input.getLine
  if line.isEmpty then return s
  let s ← answer (Text.trim line) s
  serve filter input (← flush filter s)

/-- Run a process from its start to its end. -/
def run : IO UInt32 := do
  let filter := Filter.choose (← IO.getEnv "RUST_LOG") Filter.usual
  let launch := Daemon.launch (← readSettings) fun a => .ok a.render
  match launch.result with
  | .error failure => do
    print filter launch.lines
    (← IO.getStderr).putStr failure.report
    return 1
  | .ok s => do
    let s := s.catchUp (← IO.monoMsNow)
    let s ← serve filter (← IO.getStdin) (← flush filter s)
    let _ ← flush filter (Daemon.stop (← IO.monoMsNow) s)
    return 0

end OrderRelay.CommandLine

/-- Run a process. -/
def main : IO UInt32 := OrderRelay.CommandLine.run
