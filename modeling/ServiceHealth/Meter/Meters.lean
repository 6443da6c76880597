import ServiceHealth.Health.Standing
import ServiceHealth.Meter.Family

/-!
# Meters

What the monitor counts and measures: probes and their latency, the standing of every instance,
changes of status, the size of the fleet, probe rounds, and lookups that found nothing.
-/
namespace ServiceHealth

/-- A count as a gauge of sixty-four bits shows it. -/
def Meter.gauge (n : Nat) : Int64 := Int64.ofNat n

structure Meters where
  probes : Meter.Family UInt64
  probeLatency : Meter.Family Meter.Histogram
  probesDiscarded : UInt64
  instanceStatus : Meter.Family Int64
  successes : Meter.Family Int64
  failures : Meter.Family Int64
  transitions : Meter.Family UInt64
  instancesActive : Int64
  instancesByStatus : Meter.Family Int64
  rounds : UInt64
  roundDuration : Meter.Histogram
  notFound : Meter.Family UInt64

namespace Meters

def initial : Meters where
  probes := .empty
  probeLatency := .empty
  probesDiscarded := 0
  instanceStatus := .empty
  successes := .empty
  failures := .empty
  transitions := .empty
  instancesActive := 0
  instancesByStatus := .empty
  rounds := 0
  roundDuration := .empty (Meter.bounds 16)
  notFound := .empty

/-- A probe of a service was answered, or given up. -/
def recordProbe (m : Meters) (service : String) (protocol : Probe.Protocol) (kind : Probe.Kind)
    (latency : Span) : Meters :=
  let histogram := (m.probeLatency.get? [protocol.name]).getD (.empty (Meter.bounds 15))
  { m with
    probes := m.probes.increment [service, protocol.name, kind.name]
    probeLatency := m.probeLatency.insert [protocol.name] (histogram.observe latency.seconds) }

/-- A result came too late. -/
def recordDiscarded (m : Meters) : Meters :=
  { m with probesDiscarded := m.probesDiscarded + 1 }

def setInstance (m : Meters) (id service : String) (status : Status)
    (successes failures : UInt32) : Meters :=
  let labels := [id, service]
  { m with
    instanceStatus := m.instanceStatus.insert labels (Meter.gauge status.code)
    successes := m.successes.insert labels (Meter.gauge successes.toNat)
    failures := m.failures.insert labels (Meter.gauge failures.toNat) }

def removeInstance (m : Meters) (id service : String) : Meters :=
  let labels := [id, service]
  { m with
    instanceStatus := m.instanceStatus.erase labels
    successes := m.successes.erase labels
    failures := m.failures.erase labels }

def recordTransition (m : Meters) (service : String) (t : Transition) : Meters :=
  { m with transitions := m.transitions.increment [service, t.source.label, t.target.label] }

def setActive (m : Meters) (count : Nat) : Meters :=
  { m with instancesActive := Meter.gauge count }

/-- The number of probed instances by status. -/
def setTally (m : Meters) (t : Tally) : Meters :=
  { m with
    instancesByStatus :=
      ((m.instancesByStatus.insert [Status.healthy.label] (Meter.gauge t.healthy)).insert
        [Status.unhealthy.label] (Meter.gauge t.unhealthy)).insert
        [Status.unknown.label] (Meter.gauge t.unknown) }

def recordRound (m : Meters) (duration : Span) : Meters :=
  { m with
    rounds := m.rounds + 1
    roundDuration := m.roundDuration.observe duration.seconds }

def recordNotFound (m : Meters) (resource : String) : Meters :=
  { m with notFound := m.notFound.increment [resource] }

end Meters

end ServiceHealth
