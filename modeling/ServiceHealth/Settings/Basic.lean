import ServiceHealth.Health.Standing
import ServiceHealth.Net.Socket
import ServiceHealth.Probe.Header
import ServiceHealth.Text.Basic

/-!
# Settings

What a monitor can be told in its configuration, in five sections with a default for everything.
Settings are checked in two layers: the values of single fields, and then whether a setup can be
made of them. A setup is what a monitor is started with.
-/
namespace ServiceHealth

namespace Settings

/-- Where the API listens. -/
structure Server where
  listenAddr : String := "0.0.0.0:8080"
  deriving DecidableEq, Repr, Inhabited

/-- How instances are probed. -/
structure Probing where
  probeIntervalSeconds : UInt64 := 30
  httpTimeoutSeconds : UInt64 := 5
  tcpTimeoutSeconds : UInt64 := 3
  failureThreshold : UInt32 := 3
  recoveryThreshold : UInt32 := 2
  /-- Entries `Name=Value`. -/
  httpHeaders : List String := []
  maxConcurrentProbes : Nat := 64
  deriving DecidableEq, Repr

instance : Inhabited Probing := ⟨{}⟩

structure Metrics where
  enabled : Bool := true
  deriving DecidableEq, Repr

instance : Inhabited Metrics := ⟨{}⟩

structure Telemetry where
  enabled : Bool := false
  serviceName : String := "health-monitor"
  otlpEndpoint : String := "http://localhost:4317"
  deriving DecidableEq, Repr

instance : Inhabited Telemetry := ⟨{}⟩

structure Logging where
  level : Option String := none
  format : Option String := none
  deriving DecidableEq, Repr, Inhabited

end Settings

/-- The configuration of a monitor. -/
structure Settings where
  server : Settings.Server := {}
  probing : Settings.Probing := {}
  metrics : Settings.Metrics := {}
  telemetry : Settings.Telemetry := {}
  logging : Settings.Logging := {}
  deriving DecidableEq, Repr

instance : Inhabited Settings := ⟨{}⟩

inductive LogFormat where
  | plain
  | json
  deriving DecidableEq, Repr, Inhabited

/-- The format that a setting names, blanks and letter case aside; plain for any other name. -/
def LogFormat.ofName (name : Option String) : LogFormat :=
  if (name.map fun s => Text.lowerAscii (Text.trim s)) = some "json" then .json else .plain

/-- What a monitor is started with. The pool says how many probes may be under way at a time. -/
structure Setup where
  listen : Net.Socket := .v4 ⟨0, 0, 0, 0⟩ 8080
  probeInterval : Span := .ofSeconds 30 0
  httpTimeout : Span := .ofSeconds 5 0
  tcpTimeout : Span := .ofSeconds 3 0
  thresholds : Thresholds := .usual
  headers : List Probe.Header := []
  pool : Nat := 64
  metered : Bool := true
  deriving DecidableEq, Repr

instance : Inhabited Setup := ⟨{}⟩

end ServiceHealth
