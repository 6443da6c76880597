import ServiceHealth.Json.Decode
import ServiceHealth.Settings.Basic

/-!
# Settings in JSON

The JSON forms of the sections. Every section may be missing, and so may every field, but for the
fields of logging in the array form.
-/
namespace ServiceHealth.Settings

open Json (Decoder Record)

namespace Server

def fields : Record Server :=
  (fun listenAddr => ⟨listenAddr⟩) <$>
    .defaulted "listen_addr" .text (default : Server).listenAddr

def decoder : Decoder Server := fields.decoder "struct ServerSettings"

def toJson (s : Server) : Json := .ofMembers [("listen_addr", .ofText s.listenAddr)]

end Server

namespace Probing

def fields : Record Probing :=
  make <$> .defaulted "probe_interval_seconds" .uint64 (default : Probing).probeIntervalSeconds
    <*> .defaulted "http_timeout_seconds" .uint64 (default : Probing).httpTimeoutSeconds
    <*> .defaulted "tcp_timeout_seconds" .uint64 (default : Probing).tcpTimeoutSeconds
    <*> .defaulted "failure_threshold" .uint32 (default : Probing).failureThreshold
    <*> .defaulted "recovery_threshold" .uint32 (default : Probing).recoveryThreshold
    <*> .defaulted "http_headers" (.list .text) (default : Probing).httpHeaders
    <*> .defaulted "max_concurrent_probes" .count (default : Probing).maxConcurrentProbes
where
  make (probeIntervalSeconds httpTimeoutSeconds tcpTimeoutSeconds : UInt64)
      (failureThreshold recoveryThreshold : UInt32) (httpHeaders : List String)
      (maxConcurrentProbes : Nat) : Probing :=
    { probeIntervalSeconds, httpTimeoutSeconds, tcpTimeoutSeconds, failureThreshold,
      recoveryThreshold, httpHeaders, maxConcurrentProbes }

def decoder : Decoder Probing := fields.decoder "struct ProbingSettings"

def toJson (p : Probing) : Json :=
  .ofMembers
    [("probe_interval_seconds", .ofNat p.probeIntervalSeconds.toNat),
      ("http_timeout_seconds", .ofNat p.httpTimeoutSeconds.toNat),
      ("tcp_timeout_seconds", .ofNat p.tcpTimeoutSeconds.toNat),
      ("failure_threshold", .ofNat p.failureThreshold.toNat),
      ("recovery_threshold", .ofNat p.recoveryThreshold.toNat),
      ("http_headers", .array (p.httpHeaders.map .ofText)),
      ("max_concurrent_probes", .ofNat p.maxConcurrentProbes)]

end Probing

namespace Metrics

def fields : Record Metrics :=
  (fun enabled => ⟨enabled⟩) <$> .defaulted "enabled" .bool (default : Metrics).enabled

def decoder : Decoder Metrics := fields.decoder "struct MetricsSettings"

def toJson (m : Metrics) : Json := .ofMembers [("enabled", .bool m.enabled)]

end Metrics

namespace Telemetry

def fields : Record Telemetry :=
  make <$> .defaulted "enabled" .bool (default : Telemetry).enabled
    <*> .defaulted "service_name" .text (default : Telemetry).serviceName
    <*> .defaulted "otlp_endpoint" .text (default : Telemetry).otlpEndpoint
where
  make (enabled : Bool) (serviceName otlpEndpoint : String) : Telemetry :=
    { enabled, serviceName, otlpEndpoint }

def decoder : Decoder Telemetry := fields.decoder "struct TelemetrySettings"

def toJson (t : Telemetry) : Json :=
  .ofMembers
    [("enabled", .bool t.enabled),
      ("service_name", .ofText t.serviceName),
      ("otlp_endpoint", .ofText t.otlpEndpoint)]

end Telemetry

namespace Logging

def fields : Record Logging :=
  make <$> .optional "level" .text <*> .optional "format" .text
where
  make (level format : Option String) : Logging := { level, format }

def decoder : Decoder Logging := fields.decoder "struct LoggingSettings"

def toJson (l : Logging) : Json :=
  .ofMembers [("level", .ofOption .ofText l.level), ("format", .ofOption .ofText l.format)]

end Logging

def fields : Record Settings :=
  make <$> .defaulted "server" Server.decoder default
    <*> .defaulted "probing" Probing.decoder default
    <*> .defaulted "metrics" Metrics.decoder default
    <*> .defaulted "telemetry" Telemetry.decoder default
    <*> .defaulted "logging" Logging.decoder default
where
  make (server : Server) (probing : Probing) (metrics : Metrics) (telemetry : Telemetry)
      (logging : Logging) : Settings :=
    { server, probing, metrics, telemetry, logging }

def decoder : Decoder Settings := fields.decoder "struct Config"

def toJson (s : Settings) : Json :=
  .ofMembers
    [("server", s.server.toJson),
      ("probing", s.probing.toJson),
      ("metrics", s.metrics.toJson),
      ("telemetry", s.telemetry.toJson),
      ("logging", s.logging.toJson)]

end ServiceHealth.Settings
