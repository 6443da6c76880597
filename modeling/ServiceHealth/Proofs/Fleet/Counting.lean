import ServiceHealth.Proofs.Metering

/-!
# What calls count

Apart from the gauges of its instance, a call moves the meters only if it delivers an outcome: there
is one more probe, and one more late result or one more change of status, if that is what came of
it. Each of these counts moves by itself, so the order in which calls are counted does not matter,
except for sums of floating-point numbers.
-/
namespace ServiceHealth

namespace Meter

theorem Family.get?_increment (f : Family UInt64) (labels j : Labels) :
    (f.increment labels).get? j = if j = labels then some ((f.get? labels).getD 0 + 1)
      else f.get? j := Table.get?_insert f labels _ j

theorem Family.increment_comm (f : Family UInt64) (a b : Labels) :
    (f.increment a).increment b = (f.increment b).increment a := by
  apply Table.ext_get?
  intro j
  simp only [get?_increment]
  by_cases hab : a = b
  · rw [hab]
  · by_cases hja : j = a
    · subst j
      simp [hab]
    · by_cases hjb : j = b
      · subst j
        simp [hja]
      · simp [hja, hjb]

def Family.incrementSome (f : Family UInt64) (labels : Option Labels) : Family UInt64 :=
  labels.elim f f.increment

theorem Family.incrementSome_comm (f : Family UInt64) (a b : Option Labels) :
    (f.incrementSome a).incrementSome b = (f.incrementSome b).incrementSome a := by
  cases a with
  | none => rfl
  | some a =>
    cases b with
    | none => rfl
    | some b => exact f.increment_comm a b

/-- The histogram without its sum, which is rounded at every observation. -/
def Histogram.unsummed (h : Histogram) : Histogram := { h with sum := 0.0 }

theorem Histogram.observe_comm (h : Histogram) (x y : Float) :
    ((h.observe x).observe y).unsummed = ((h.observe y).observe x).unsummed := by
  have hcounts (i j : Nat) :
      (h.counts.modify i (· + 1)).modify j (· + 1) =
        (h.counts.modify j (· + 1)).modify i (· + 1) := by
    apply List.ext_getElem?
    intro k
    simp only [List.getElem?_modify]
    cases h.counts[k]? with
    | none => rfl
    | some n => split <;> split <;> simp
  simp only [Histogram.unsummed, Histogram.observe, hcounts]

def Family.observe (f : Family Histogram) (bounds : List Float) (labels : Labels) (x : Float) :
    Family Histogram :=
  f.insert labels (((f.get? labels).getD (.empty bounds)).observe x)

theorem Family.observe_comm (f : Family Histogram) (bounds : List Float) (a b : Labels)
    (x y : Float) : ((f.observe bounds a x).observe bounds b y).map Histogram.unsummed =
      ((f.observe bounds b y).observe bounds a x).map Histogram.unsummed := by
  apply Table.ext_get?
  intro j
  simp only [Table.get?_map, observe, Table.get?_insert]
  by_cases hab : a = b
  · subst b
    by_cases hj : j = a
    · simp [hj, Histogram.observe_comm _ x y]
    · simp [hj]
  · by_cases hja : j = a
    · subst j
      simp [hab]
    · by_cases hjb : j = b
      · subst j
        simp [hja]
      · simp [hja, hjb]

/-- One more observation under some labels, if there is one. -/
def Family.observeSome (f : Family Histogram) (bounds : List Float) (o : Option (Labels × Float)) :
    Family Histogram :=
  o.elim f fun o => f.observe bounds o.1 o.2

theorem Family.observeSome_comm (f : Family Histogram) (bounds : List Float)
    (a b : Option (Labels × Float)) :
    ((f.observeSome bounds a).observeSome bounds b).map Histogram.unsummed =
      ((f.observeSome bounds b).observeSome bounds a).map Histogram.unsummed := by
  cases a with
  | none => rfl
  | some a =>
    cases b with
    | none => rfl
    | some b => exact f.observe_comm bounds a.1 b.1 a.2 b.2

end Meter

namespace Meters

/-- The meters without the sums of latencies. -/
def unsummed (m : Meters) : Meters :=
  { m with probeLatency := m.probeLatency.map Meter.Histogram.unsummed }

/-- The meters without the gauges of instances. -/
def ungauged (m : Meters) : Meters :=
  { m with instanceStatus := .empty, successes := .empty, failures := .empty }

/-- What is counted of a call: the probe whose outcome it delivers, whether that came too late, and
the change of status that it caused in a service. -/
structure Ticks where
  probe : Option (Instance × Probe.Outcome)
  late : Bool
  turn : Option (String × Transition)

namespace Ticks

def silent : Ticks := ⟨none, false, none⟩

def probeLabels (k : Ticks) : Option Meter.Labels :=
  k.probe.map fun p => [p.1.serviceName, p.1.protocol.name, p.2.kind.name]

/-- The latency of the probe, and the labels under which it is observed. -/
def latency (k : Ticks) : Option (Meter.Labels × Float) :=
  k.probe.map fun p => ([p.1.protocol.name], p.2.latency.seconds)

def turnLabels (k : Ticks) : Option Meter.Labels :=
  k.turn.map fun change => [change.1, change.2.source.label, change.2.target.label]

/-- One more, wherever there is something to count. -/
def apply (k : Ticks) (m : Meters) : Meters :=
  { m with
    probes := m.probes.incrementSome k.probeLabels
    probeLatency := m.probeLatency.observeSome (Meter.bounds 15) k.latency
    probesDiscarded := m.probesDiscarded + if k.late then 1 else 0
    transitions := m.transitions.incrementSome k.turnLabels }

@[simp] theorem silent_apply (m : Meters) : silent.apply m = m := by
  simp [apply, silent, probeLabels, latency, turnLabels, Meter.Family.incrementSome,
    Meter.Family.observeSome]

/-- Counts do not depend on their order, apart from the sums. -/
theorem apply_comm (j k : Ticks) (m : Meters) :
    (k.apply (j.apply m)).unsummed = (j.apply (k.apply m)).unsummed := by
  have hlate : m.probesDiscarded + (if j.late then 1 else 0) + (if k.late then 1 else 0) =
      m.probesDiscarded + (if k.late then 1 else 0) + (if j.late then 1 else 0) := by
    rw [UInt64.add_assoc, UInt64.add_comm (if j.late then 1 else 0), ← UInt64.add_assoc]
  simp only [apply, unsummed, m.probes.incrementSome_comm j.probeLabels,
    m.transitions.incrementSome_comm j.turnLabels, hlate,
    m.probeLatency.observeSome_comm (Meter.bounds 15) j.latency]

end Ticks

end Meters

namespace Fleet

def Call.outcome? : Call → Option (Instance × Probe.Outcome)
  | .applyOutcome probed outcome => some (probed, outcome)
  | _ => none

namespace Entry

/-- The change of status that an outcome causes, and the name of the service at that moment. -/
def turn (t : Thresholds) (now : Timestamp) (probed : Instance) (outcome : Probe.Outcome)
    (e : Entry) : Option (String × Transition) :=
  (e.record.filter Instance.isActive).bind fun current =>
    ((e.standing.getD .initial).observe t now probed.protocol outcome).2.map
      (current.serviceName, ·)

def ticks (t : Thresholds) (now : Timestamp) (e : Entry) (c : Call) : Meters.Ticks :=
  match c.outcome? with
  | some (probed, outcome) =>
      ⟨some (probed, outcome), !e.isActive, e.turn t now probed outcome⟩
  | none => .silent

theorem isActive_eq (e : Entry) : e.isActive = (e.record.filter Instance.isActive).isSome := by
  unfold isActive
  cases e.record with
  | none => rfl
  | some i => cases hi : i.isActive <;> simp [Option.filter, hi]

/-- All that a call does to the meters, apart from the gauges of its instance, is to count. -/
theorem count_ungauged (t : Thresholds) (now : Timestamp) (e : Entry) (c : Call) (m : Meters) :
    (e.count t now c m).ungauged = (e.ticks t now c).apply m.ungauged := by
  cases c with
  | register r =>
    simp only [ticks, Call.outcome?, Meters.Ticks.silent_apply, count]
    by_cases hback : r.check.isOk ∧ e.hasLeft
    · rw [if_pos hback]
      rfl
    · rw [if_neg hback]
      rfl
  | deregister subject =>
    simp only [ticks, Call.outcome?, Meters.Ticks.silent_apply, count]
    cases e.record with
    | none => rfl
    | some i => rfl
  | updateMetadata subject pairs => exact (Meters.Ticks.silent_apply _).symm
  | purge subject =>
    simp only [ticks, Call.outcome?, Meters.Ticks.silent_apply, count]
    cases (e.purge subject).1 with
    | error cause => rfl
    | ok r => rfl
  | applyOutcome probed outcome =>
    simp only [ticks, Call.outcome?, turn, count, countOutcome]
    cases hcurrent : e.record.filter Instance.isActive with
    | none =>
      have hlate : e.isActive = false := by rw [isActive_eq, hcurrent, Option.isSome_none]
      rw [hlate]
      rfl
    | some current =>
      have hactive : e.isActive = true := by rw [isActive_eq, hcurrent, Option.isSome_some]
      have hkept (n : UInt64) : n + (if (!e.isActive) = true then 1 else 0) = n := by
        simp [hactive]
      simp only [Option.bind_some, Meters.Ticks.apply, hkept]
      cases ((e.standing.getD .initial).observe t now probed.protocol outcome).2 with
      | none => rfl
      | some change => rfl

end Entry

end Fleet

end ServiceHealth
