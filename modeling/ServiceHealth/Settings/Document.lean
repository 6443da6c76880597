import ServiceHealth.Settings.Check
import ServiceHealth.Yaml.Decode

/-!
# Settings from YAML

A configuration file is a YAML document with one mapping for each section. It is accepted if it
has the right form, its fields are in order and a setup can be made of it.
-/
namespace ServiceHealth.Settings

open Yaml (Decoder Members)

def Server.ofNode : Decoder Server := fun root v => do
  let ms ← Members.ofNode? ["listen_addr"] root v
  return { listenAddr := ← ms.value? root "listen_addr" .text (default : Server).listenAddr }

def Probing.names : List String :=
  ["probe_interval_seconds", "http_timeout_seconds", "tcp_timeout_seconds", "failure_threshold",
    "recovery_threshold", "http_headers", "max_concurrent_probes"]

def Probing.ofNode : Decoder Probing := fun root v => do
  let ms ← Members.ofNode? names root v
  let usual : Probing := default
  return {
    probeIntervalSeconds :=
      ← ms.value? root "probe_interval_seconds" .uint64 usual.probeIntervalSeconds
    httpTimeoutSeconds := ← ms.value? root "http_timeout_seconds" .uint64 usual.httpTimeoutSeconds
    tcpTimeoutSeconds := ← ms.value? root "tcp_timeout_seconds" .uint64 usual.tcpTimeoutSeconds
    failureThreshold := ← ms.value? root "failure_threshold" .uint32 usual.failureThreshold
    recoveryThreshold := ← ms.value? root "recovery_threshold" .uint32 usual.recoveryThreshold
    httpHeaders := ← ms.value? root "http_headers" (.list .text) usual.httpHeaders
    maxConcurrentProbes :=
      ← ms.value? root "max_concurrent_probes" .count usual.maxConcurrentProbes }

def Metrics.ofNode : Decoder Metrics := fun root v => do
  let ms ← Members.ofNode? ["enabled"] root v
  return { enabled := ← ms.value? root "enabled" .bool (default : Metrics).enabled }

def Telemetry.ofNode : Decoder Telemetry := fun root v => do
  let ms ← Members.ofNode? ["enabled", "service_name", "otlp_endpoint"] root v
  let usual : Telemetry := default
  return {
    enabled := ← ms.value? root "enabled" .bool usual.enabled
    serviceName := ← ms.value? root "service_name" .text usual.serviceName
    otlpEndpoint := ← ms.value? root "otlp_endpoint" .text usual.otlpEndpoint }

def Logging.ofNode : Decoder Logging := fun root v => do
  let ms ← Members.ofNode? ["level", "format"] root v
  return {
    level := ← ms.value? root "level" (.nullable .text) none
    format := ← ms.value? root "format" (.nullable .text) none }

/-- The settings in a document. -/
def ofNode : Decoder Settings := fun root v => do
  let ms ← Members.ofNode? ["server", "probing", "metrics", "telemetry", "logging"] root v
  return {
    server := ← ms.value? root "server" Server.ofNode default
    probing := ← ms.value? root "probing" Probing.ofNode default
    metrics := ← ms.value? root "metrics" Metrics.ofNode default
    telemetry := ← ms.value? root "telemetry" Telemetry.ofNode default
    logging := ← ms.value? root "logging" Logging.ofNode default }

/-- The settings that a text holds, unchecked. -/
def read (s : String) : Except Fault Settings :=
  match (Yaml.Node.ofText? s).bind fun root => ofNode root root with
  | some settings => .ok settings
  | none => .error .malformed

/-- The settings that a text holds, if a monitor can be set up with them. -/
def ofYaml (s : String) : Except Fault Settings := do
  let settings ← read s
  settings.check
  let _ ← settings.setup
  return settings

/-- The environment variable that names a configuration file. -/
def variableName : String := "HEALTH_MONITOR_CONFIG"

/-- Where a configuration file is looked for if none is named, in this order. -/
def usualPaths (home : Option String) : List String :=
  ["/etc/mesh-health/health-monitor.yaml"] ++
    (home.map (· ++ "/.config/mesh-health/health-monitor.yaml")).toList ++
    ["./health-monitor.yaml"]

/-- What stands at a place in the file system. -/
inductive Place where
  | absent
  | directory
  | file (bytes : List UInt8)

def Place.isFile : Place → Bool
  | .file _ => true
  | _ => false

def Place.text : Place → Except FileFault String
  | .absent => .error .missing
  | .directory => .error .directory
  | .file bytes =>
      match String.fromUTF8? ⟨bytes.toArray⟩ with
      | some s => .ok s
      | none => .error .notUnicode

def ofPlace (p : Place) : Except Fault Settings :=
  match p.text with
  | .ok s => ofYaml s
  | .error f => .error (.file f)

/-- Finds the settings: at the place that was named or, if none was, in the first file among the
usual places. Without any file they are the default ones. -/
def locate (named : Option Place) (usual : List Place) : Except Fault Settings :=
  match named with
  | some p => ofPlace p
  | none =>
      match usual.find? Place.isFile with
      | some p => ofPlace p
      | none => .ok default

end ServiceHealth.Settings
