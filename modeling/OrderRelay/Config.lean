import OrderRelay.Log.Entry
import OrderRelay.Net.SocketAddress
import OrderRelay.Text.Blank
import OrderRelay.Text.Duration
import OrderRelay.Tier

/-!
# Configuration

What a process does is chosen once, from named settings given as texts. Every setting may be missing; a text
of nothing but blanks counts as missing, and blanks at the ends are no part of a value.

* `Mode`, the tiers a process serves;
* `Setting` and its `name`, `Settings`, where the texts come from, and `value?`, a text without blanks;
* `Config`, `Config.standard`;
* `Config.read`, which accepts settings or names one that is invalid, and `Config.readEntries`, what it
  reports.
-/

namespace OrderRelay

open Text

/-- What a process is there for. -/
inductive Mode where
  /-- Normal operation. -/
  | feed
  /-- One sweep over the orders that failed. -/
  | recovery
deriving DecidableEq, Repr

namespace Mode

/-- The tiers that a process serves. -/
def tiers : Mode → List Tier
  | feed => [.main, .retry]
  | recovery => [.error]

/-- The name of a mode. -/
def name : Mode → String
  | feed => "feed"
  | recovery => "error_recovery"

end Mode

/-! ## Settings -/

/-- The settings of a process. -/
inductive Setting where
  | recoveryFlag
  | namespaceName
  | baseTopic
  | servers
  | publishTimeout
  | pollInterval
  | partitions
  | bindAddress
  | triggerPath
deriving DecidableEq, Repr

/-- The name under which a setting is given. -/
def Setting.name : Setting → String
  | recoveryFlag => "IS_ERROR_QUEUE_CONSUMER"
  | namespaceName => "APPLICATION_NAMESPACE"
  | baseTopic => "ORDER_RECEIVED_TOPIC"
  | servers => "BOOTSTRAP_SERVERS"
  | publishTimeout => "PUBLISH_TIMEOUT_MS"
  | pollInterval => "POLL_INTERVAL_MS"
  | partitions => "PARTITIONS"
  | bindAddress => "HTTP_BIND_ADDR"
  | triggerPath => "ADMIN_TRIGGER_PATH"

/-- The texts that were given. -/
abbrev Settings := Setting → Option String

/-- The value of a setting, if there is more than blanks. -/
def Settings.value? (settings : Settings) (s : Setting) : Option String :=
  ((settings s).map trim).filter (· ≠ "")

/-- Why settings were refused. -/
inductive ConfigError where
  | invalidFlag (setting : Setting) (value : String)
  | invalidNumber (setting : Setting) (value : String)
  | invalidAddress (setting : Setting) (value : String)
  | empty (setting : Setting)
deriving DecidableEq, Repr

namespace ConfigError

/-- The setting that is to blame. -/
def setting : ConfigError → Setting
  | invalidFlag s _ => s
  | invalidNumber s _ => s
  | invalidAddress s _ => s
  | empty s => s

/-- The message of an error. -/
def message : ConfigError → String
  | invalidFlag s value => s.name ++ " must be true or false, got " ++ quoted value
  | invalidNumber s value => s.name ++ " must be a positive integer, got " ++ quoted value
  | invalidAddress s value => s.name ++ " must be a socket address, got " ++ quoted value
  | empty s => s.name ++ " must not be empty"

end ConfigError

/-! ## Configurations -/

/-- What a process works with. -/
structure Config where
  mode : Mode
  topology : Topology
  servers : String
  publishTimeout : Duration
  pollInterval : Duration
  partitions : Nat
  bindAddress : SocketAddress
  triggerPath : String
deriving DecidableEq

namespace Config

/-- The configuration without any settings. -/
def standard : Config where
  mode := .feed
  topology := .standard
  servers := "localhost:9092"
  publishTimeout := .ofMillis 10000
  pollInterval := .ofMillis 250
  partitions := 1
  bindAddress := .v4 ⟨0, 0, 0, 0⟩ 8080
  triggerPath := "/test"

/-! ## Values -/

/-- The mode that a flag asks for, in letters of either case. -/
def modeOf? (value : String) : Option Mode :=
  let lower := value.map Char.toLower
  if lower = "true" then some .recovery
  else if lower = "false" then some .feed
  else none

/-- A positive number below a bound. -/
def numberOf? (bound : Nat) (value : String) : Option Nat :=
  (decimal? value).filter fun n => 0 < n && n < bound

/-- A path with one slash before it and none after it. There has to be more than slashes. -/
def pathOf? (value : String) : Option String :=
  let inner := stripChar '/' value
  if inner = "" then none else some ("/" ++ inner)

/-! ## Reading -/

variable (settings : Settings)

/-- Read a setting: what it stands for, or its usual value if it is missing. -/
def setting {α : Type} (s : Setting) (usual : α) (of? : String → Option α)
    (refuse : String → ConfigError) : Except ConfigError α :=
  match settings.value? s with
  | none => .ok usual
  | some value =>
    match of? value with
    | some a => .ok a
    | none => .error (refuse value)

/-- Read the mode. -/
def readMode : Except ConfigError Mode :=
  setting settings .recoveryFlag standard.mode modeOf? (.invalidFlag .recoveryFlag)

/-- Read a positive number of 64 bits. -/
def readNumber (s : Setting) (usual : Nat) : Except ConfigError Nat :=
  setting settings s usual (numberOf? UInt64.size) (.invalidNumber s)

/-- The number of partitions has only 31 bits. What exceeds them is shown as a number, not as it was
written. -/
def checkPartitions (n : Nat) : Except ConfigError Nat :=
  if n < 1 <<< 31 then .ok n else .error (.invalidNumber .partitions (toString n))

/-- The configuration that settings ask for, or the first of them that is invalid. -/
def read : Except ConfigError Config := do
  let mode ← readMode settings
  let bindAddress ← setting settings .bindAddress standard.bindAddress SocketAddress.parse?
    (.invalidAddress .bindAddress)
  let triggerPath ← setting settings .triggerPath standard.triggerPath pathOf?
    fun _ => .empty .triggerPath
  let partitions ← readNumber settings .partitions standard.partitions
  let publishTimeout ← readNumber settings .publishTimeout standard.publishTimeout.millis
  let pollInterval ← readNumber settings .pollInterval standard.pollInterval.millis
  let partitions ← checkPartitions partitions
  return {
    mode, bindAddress, triggerPath, partitions
    topology :=
      ⟨(settings.value? .namespaceName).getD standard.topology.namespaceName,
        (settings.value? .baseTopic).getD standard.topology.baseTopic⟩
    servers := (settings.value? .servers).getD standard.servers
    publishTimeout := .ofMillis publishTimeout
    pollInterval := .ofMillis pollInterval }

/-- Reported while reading: the usual servers are taken. An invalid mode is found before that. -/
def readEntries : List Log.Entry :=
  match readMode settings, settings.value? .servers with
  | .ok _, none =>
    [Log.warn .configuration ("BOOTSTRAP_SERVERS not set; using " ++ standard.servers) []]
  | _, _ => []

/-- The channels that a process reads. -/
def channels (c : Config) : List Channel := c.mode.tiers.map c.topology.channel

end Config

end OrderRelay
