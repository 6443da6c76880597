import ServiceHealth.Error
import ServiceHealth.Probe.Basic
import ServiceHealth.Table

/-!
# Health standing

The standing of an instance is what its probes so far say about it. A single failure does not make
a healthy instance unhealthy and a single success does not heal it: the status changes when as
many probes in a row agree as the threshold of their kind asks for. The counter that has filled
up starts again from zero.
-/
namespace ServiceHealth

/-- The health of an instance. -/
inductive Status where
  | unknown
  | healthy
  | unhealthy
  deriving DecidableEq, Repr, Inhabited

/-- The status in lower case, as in metric labels. -/
def Status.label : Status → String
  | .unknown => "unknown"
  | .healthy => "healthy"
  | .unhealthy => "unhealthy"

/-- The status in upper case, as in messages. -/
def Status.title : Status → String
  | .unknown => "UNKNOWN"
  | .healthy => "HEALTHY"
  | .unhealthy => "UNHEALTHY"

/-- The status as a number, for gauges. -/
def Status.code : Status → Nat
  | .unknown => 0
  | .healthy => 1
  | .unhealthy => 2

/-- How many probes in a row change the status. -/
structure Thresholds where
  failure : UInt32
  recovery : UInt32
  deriving DecidableEq, Repr

namespace Thresholds

/-- Three failures, two successes. -/
def usual : Thresholds := ⟨3, 2⟩

instance : Inhabited Thresholds := ⟨usual⟩

def IsProper (t : Thresholds) : Prop := 0 < t.failure ∧ 0 < t.recovery

instance (t : Thresholds) : Decidable t.IsProper := inferInstanceAs (Decidable (_ ∧ _))

def make (failure recovery : UInt32) : Except Error Thresholds :=
  if failure = 0 then .error (.config .zeroFailureThreshold)
  else if recovery = 0 then .error (.config .zeroRecoveryThreshold)
  else .ok ⟨failure, recovery⟩

end Thresholds

structure Transition where
  source : Status
  target : Status
  deriving DecidableEq, Repr

/-- What is known about the health of an instance. -/
structure Standing where
  status : Status
  failures : UInt32
  successes : UInt32
  lastProbeAt : Option Timestamp
  lastProbeType : Option Probe.Protocol
  lastMessage : Option String
  deriving DecidableEq, Repr

/-- One more, as far as thirty-two bits count. -/
def countUp (n : UInt32) : UInt32 :=
  if n = 0xFFFFFFFF then n else n + 1

namespace Standing

def initial : Standing := ⟨.unknown, 0, 0, none, none, none⟩

instance : Inhabited Standing := ⟨initial⟩

def succeed (recovery : UInt32) (s : Standing) : Standing × Option Transition :=
  let n := countUp s.successes
  if s.status ≠ .healthy ∧ recovery ≤ n then
    ({ s with status := .healthy, successes := 0, failures := 0 }, some ⟨s.status, .healthy⟩)
  else ({ s with successes := n, failures := 0 }, none)

def fail (failure : UInt32) (s : Standing) : Standing × Option Transition :=
  let n := countUp s.failures
  if s.status ≠ .unhealthy ∧ failure ≤ n then
    ({ s with status := .unhealthy, failures := 0, successes := 0 }, some ⟨s.status, .unhealthy⟩)
  else ({ s with failures := n, successes := 0 }, none)

/-- The standing after one more outcome, and the change of status that it caused. -/
def observe (t : Thresholds) (now : Timestamp) (protocol : Probe.Protocol)
    (outcome : Probe.Outcome) (s : Standing) : Standing × Option Transition :=
  let (next, transition) := if outcome.success then s.succeed t.recovery else s.fail t.failure
  ({ next with
      lastProbeAt := some now
      lastProbeType := some protocol
      lastMessage := some outcome.message },
    transition)

end Standing

/-- How many instances have which status. -/
structure Tally where
  healthy : Nat
  unhealthy : Nat
  unknown : Nat
  deriving DecidableEq, Repr

def Tally.ofList (statuses : List Status) : Tally :=
  ⟨statuses.count .healthy, statuses.count .unhealthy, statuses.count .unknown⟩

/-- The standings of all instances that have been probed. -/
structure Standings where
  thresholds : Thresholds
  table : Table String Standing

namespace Standings

def empty (t : Thresholds) : Standings := ⟨t, .empty⟩

def get? (s : Standings) (id : String) : Option Standing := s.table.get? id

/-- Takes one more outcome into account. An instance that has no standing begins with the
initial one. -/
def record (s : Standings) (now : Timestamp) (id : String) (protocol : Probe.Protocol)
    (outcome : Probe.Outcome) : (Standing × Option Transition) × Standings :=
  let result := ((s.get? id).getD .initial).observe s.thresholds now protocol outcome
  (result, { s with table := s.table.insert id result.1 })

def remove (s : Standings) (id : String) : Standings := { s with table := s.table.erase id }

def size (s : Standings) : Nat := s.table.size

def tally (s : Standings) : Tally := .ofList (s.table.values.map (·.status))

end Standings

end ServiceHealth
