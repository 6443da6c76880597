import ServiceHealth.Health.Standing
import ServiceHealth.Service.Instance

/-!
# Health reports

A report is what readers see of an instance: its description from the catalog and its health from
the standing, as of the last probe that counted.
-/
namespace ServiceHealth

/-- The health of an instance as readers see it. -/
structure Report where
  serviceId : String
  serviceName : String
  address : String
  port : UInt16
  status : Status
  lastProbe : Option Timestamp
  lastProbeType : Option Probe.Protocol
  message : Option String
  metadata : Metadata
  failures : UInt32
  successes : UInt32
  latencyMs : Option UInt64
  deriving DecidableEq

namespace Report

/-- The report on an instance with a standing, after an outcome if there was one. -/
def make (i : Instance) (s : Standing) (outcome : Option Probe.Outcome) : Report where
  serviceId := i.serviceId
  serviceName := i.serviceName
  address := i.address
  port := i.port
  status := s.status
  lastProbe := s.lastProbeAt
  lastProbeType := s.lastProbeType
  message := s.lastMessage
  metadata := i.metadata
  failures := s.failures
  successes := s.successes
  latencyMs := outcome.map fun o => o.latency.millis.toUInt64

/-- The same health with the description of a newer record. -/
def describe (r : Report) (i : Instance) : Report :=
  { r with
    serviceName := i.serviceName
    address := i.address
    port := i.port
    metadata := i.metadata }

def isHealthy (r : Report) : Bool := r.status = .healthy

end Report

/-- The last report on each instance. -/
structure Board where
  reports : Table String Report

namespace Board

def empty : Board := ⟨.empty⟩

def find? (b : Board) (id : String) : Option Report := b.reports.get? id

def get (b : Board) (id : String) : Except Error Report :=
  match b.find? id with
  | some r => .ok r
  | none => .error (.notFound .report id)

/-- Puts a report in the place of the one before it, which is returned. -/
def post (b : Board) (r : Report) : Option Report × Board :=
  (b.find? r.serviceId, ⟨b.reports.insert r.serviceId r⟩)

/-- Brings the description in a report up to date, if there is a report. -/
def refresh (b : Board) (i : Instance) : Bool × Board :=
  (b.reports.contains i.serviceId, ⟨b.reports.modify i.serviceId (·.describe i)⟩)

/-- All reports, by id. -/
def all (b : Board) : List Report := b.reports.values

/-- The reports on a service, by id. The entries are picked in the table, not in the listing of all
reports. -/
def ofService (b : Board) (name : String) : List Report :=
  let wanted := Text.fold name
  (b.reports.filter fun _ r => Text.fold r.serviceName = wanted).values

def remove (b : Board) (id : String) : Board := ⟨b.reports.erase id⟩

/-- Takes a report away and returns it. -/
def purge (b : Board) (id : String) : Except Error Report × Board :=
  (b.get id, b.remove id)

def size (b : Board) : Nat := b.reports.size

end Board

end ServiceHealth
