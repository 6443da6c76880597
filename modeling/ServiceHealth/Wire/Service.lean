import ServiceHealth.Json.Decode
import ServiceHealth.Service.Catalog

/-!
# Records on the wire

The JSON forms of registrations, instances, metadata and metadata summaries. Metadata is a plain
object; reading one refuses keys that differ only in case. A timestamp is a string.
-/
namespace ServiceHealth

open Json (Decoder Record)

namespace Wire

/-- A timestamp as a string. -/
def timestamp : Decoder Timestamp
  | .text (some s) =>
      match Timestamp.ofText? s with
      | some t => .ok t
      | none => Json.fault (.wrongValue (.text s) "a timestamp")
  | v => Json.wrongType v "a timestamp"

def ofTimestamp (t : Timestamp) : Json := .ofText t.text

end Wire

def Probe.Protocol.known : List (String × Probe.Protocol) :=
  [("http", .http), ("tcp", .tcp)]

def Probe.Protocol.decoder : Decoder Probe.Protocol := .variant known

def Probe.Protocol.toJson (p : Probe.Protocol) : Json := .ofText p.name

def Probe.Kind.known : List (String × Probe.Kind) :=
  [Kind.success, .timeout, .connectionRefused, .protocolError, .unknown].map fun k => (k.name, k)

def Probe.Kind.decoder : Decoder Probe.Kind := .variant known

def Probe.Kind.toJson (k : Probe.Kind) : Json := .ofText k.name

namespace Metadata

/-- Metadata from JSON. Of members with the same name the last one counts; names that differ only
in case are refused. -/
def decoder : Decoder Metadata := fun v => do
  let pairs ← Decoder.map Decoder.text v
  match ofMap (.ofList pairs) with
  | .ok m => .ok m
  | .error e => Json.fault (.refused e.message)

/-- Metadata in JSON, in the order of the keys as they are spelled. -/
def toJson (m : Metadata) : Json :=
  .ofMembers (m.toMap.entries.map fun e => (e.1, Json.ofText e.2))

end Metadata

namespace Registration

def fields : Record Registration :=
  make <$> .required "service_id" .text
    <*> .required "service_name" .text
    <*> .required "address" .text
    <*> .required "port" .uint16
    <*> .defaulted "protocol" Probe.Protocol.decoder .http
    <*> .defaulted "metadata" Metadata.decoder .empty
where
  make (serviceId serviceName address : String) (port : UInt16) (protocol : Probe.Protocol)
      (metadata : Metadata) : Registration :=
    { serviceId, serviceName, address, port, protocol, metadata }

def decoder : Decoder Registration := fields.decoder "struct ServiceRegistration"

def toJson (r : Registration) : Json :=
  .ofMembers
    [("service_id", .ofText r.serviceId),
      ("service_name", .ofText r.serviceName),
      ("address", .ofText r.address),
      ("port", .ofNat r.port.toNat),
      ("protocol", r.protocol.toJson),
      ("metadata", r.metadata.toJson)]

end Registration

namespace Instance

def fields : Record Instance :=
  make <$> .required "service_id" .text
    <*> .required "service_name" .text
    <*> .required "address" .text
    <*> .required "port" .uint16
    <*> .required "protocol" Probe.Protocol.decoder
    <*> .required "metadata" Metadata.decoder
    <*> .required "registered_at" Wire.timestamp
    <*> .defaulted "deregistered_at" (.nullable Wire.timestamp) none
where
  make (serviceId serviceName address : String) (port : UInt16) (protocol : Probe.Protocol)
      (metadata : Metadata) (registeredAt : Timestamp) (deregisteredAt : Option Timestamp) :
      Instance :=
    { serviceId, serviceName, address, port, protocol, metadata, registeredAt, deregisteredAt }

def decoder : Decoder Instance := fields.decoder "struct ServiceInstance"

def toJson (i : Instance) : Json :=
  .ofMembers
    [("service_id", .ofText i.serviceId),
      ("service_name", .ofText i.serviceName),
      ("address", .ofText i.address),
      ("port", .ofNat i.port.toNat),
      ("protocol", i.protocol.toJson),
      ("metadata", i.metadata.toJson),
      ("registered_at", Wire.ofTimestamp i.registeredAt),
      ("deregistered_at", .ofOption Wire.ofTimestamp i.deregisteredAt)]

end Instance

namespace KeySummary

def fields : Record KeySummary :=
  make <$> .required "key" .text
    <*> .required "instance_count" .count
    <*> .required "values" (.list .text)
where
  make (key : String) (instanceCount : Nat) (values : List String) : KeySummary :=
    { key, instanceCount, values }

def decoder : Decoder KeySummary := fields.decoder "struct MetadataKeySummary"

def toJson (s : KeySummary) : Json :=
  .ofMembers
    [("key", .ofText s.key),
      ("instance_count", .ofNat s.instanceCount),
      ("values", .array (s.values.map Json.ofText))]

end KeySummary

namespace MetadataSummary

def fields : Record MetadataSummary :=
  make <$> .required "service_name" .text
    <*> .required "instance_count" .count
    <*> .required "generated_at" Wire.timestamp
    <*> .required "keys" (.list KeySummary.decoder)
where
  make (serviceName : String) (instanceCount : Nat) (generatedAt : Timestamp)
      (keys : List KeySummary) : MetadataSummary :=
    { serviceName, instanceCount, generatedAt, keys }

def decoder : Decoder MetadataSummary := fields.decoder "struct ServiceMetadataSummary"

def toJson (s : MetadataSummary) : Json :=
  .ofMembers
    [("service_name", .ofText s.serviceName),
      ("instance_count", .ofNat s.instanceCount),
      ("generated_at", Wire.ofTimestamp s.generatedAt),
      ("keys", .array (s.keys.map KeySummary.toJson))]

end MetadataSummary

end ServiceHealth
