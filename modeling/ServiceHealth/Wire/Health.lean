import ServiceHealth.Health.Report
import ServiceHealth.Wire.Service

/-!
# Health on the wire

The JSON forms of thresholds, standings, transitions and reports.
-/
namespace ServiceHealth

open Json (Decoder Record)

namespace Status

def name : Status → String
  | .unknown => "Unknown"
  | .healthy => "Healthy"
  | .unhealthy => "Unhealthy"

def known : List (String × Status) :=
  [unknown, .healthy, .unhealthy].map fun s => (s.name, s)

def decoder : Decoder Status := .variant known

def toJson (s : Status) : Json := .ofText s.name

end Status

namespace Thresholds

def fields : Record Thresholds :=
  Thresholds.mk <$> .required "failure" .uint32 <*> .required "recovery" .uint32

/-- Thresholds from JSON. They are taken as they are, even if they are zero. -/
def decoder : Decoder Thresholds := fields.decoder "struct Thresholds"

def toJson (t : Thresholds) : Json :=
  .ofMembers [("failure", .ofNat t.failure.toNat), ("recovery", .ofNat t.recovery.toNat)]

end Thresholds

def Transition.toJson (t : Transition) : Json :=
  .ofMembers [("from", .ofText t.source.title), ("to", .ofText t.target.title)]

namespace Standing

def fields : Record Standing :=
  make <$> .required "status" Status.decoder
    <*> .required "consecutive_failures" .uint32
    <*> .required "consecutive_successes" .uint32
    <*> .defaulted "last_probe_at" (.nullable Wire.timestamp) none
    <*> .optional "last_probe_type" Probe.Protocol.decoder
    <*> .optional "last_message" .text
where
  make (status : Status) (failures successes : UInt32) (lastProbeAt : Option Timestamp)
      (lastProbeType : Option Probe.Protocol) (lastMessage : Option String) : Standing :=
    { status, failures, successes, lastProbeAt, lastProbeType, lastMessage }

def decoder : Decoder Standing := fields.decoder "struct InstanceHealthState"

def toJson (s : Standing) : Json :=
  .ofMembers
    [("status", s.status.toJson),
      ("consecutive_failures", .ofNat s.failures.toNat),
      ("consecutive_successes", .ofNat s.successes.toNat),
      ("last_probe_at", .ofOption Wire.ofTimestamp s.lastProbeAt),
      ("last_probe_type", .ofOption Probe.Protocol.toJson s.lastProbeType),
      ("last_message", .ofOption Json.ofText s.lastMessage)]

end Standing

namespace Report

def fields : Record Report :=
  make <$> .required "service_id" .text
    <*> .required "service_name" .text
    <*> .required "address" .text
    <*> .required "port" .uint16
    <*> .required "status" Status.decoder
    <*> .defaulted "last_probe" (.nullable Wire.timestamp) none
    <*> .optional "last_probe_type" Probe.Protocol.decoder
    <*> .optional "message" .text
    <*> .required "metadata" Metadata.decoder
    <*> .required "consecutive_failures" .uint32
    <*> .required "consecutive_successes" .uint32
    <*> .optional "latency_ms" .uint64
where
  make (serviceId serviceName address : String) (port : UInt16) (status : Status)
      (lastProbe : Option Timestamp) (lastProbeType : Option Probe.Protocol)
      (message : Option String) (metadata : Metadata) (failures successes : UInt32)
      (latencyMs : Option UInt64) : Report :=
    { serviceId, serviceName, address, port, status, lastProbe, lastProbeType, message, metadata,
      failures, successes, latencyMs }

def decoder : Decoder Report := fields.decoder "struct HealthReport"

def toJson (r : Report) : Json :=
  .ofMembers
    [("service_id", .ofText r.serviceId),
      ("service_name", .ofText r.serviceName),
      ("address", .ofText r.address),
      ("port", .ofNat r.port.toNat),
      ("status", r.status.toJson),
      ("last_probe", .ofOption Wire.ofTimestamp r.lastProbe),
      ("last_probe_type", .ofOption Probe.Protocol.toJson r.lastProbeType),
      ("message", .ofOption Json.ofText r.message),
      ("metadata", r.metadata.toJson),
      ("consecutive_failures", .ofNat r.failures.toNat),
      ("consecutive_successes", .ofNat r.successes.toNat),
      ("latency_ms", .ofOption (fun n => .ofNat n.toNat) r.latencyMs)]

end Report

end ServiceHealth
