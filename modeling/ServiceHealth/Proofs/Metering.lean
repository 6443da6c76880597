import ServiceHealth.Proofs.Fleet.Entry

/-!
# What calls change on the meters

A call reaches the meters only through what it finds under its id, so the change is a function of
the entry. The three gauges of an instance are read together under their labels.
-/
namespace ServiceHealth

/-- The samples of the three gauges of an instance under some labels. -/
structure Meter.Shown where
  status : Option Int64
  successes : Option Int64
  failures : Option Int64
  deriving DecidableEq

/-- The samples that show a standing; without one there are none. -/
def Meter.Shown.ofStanding (s : Option Standing) : Shown where
  status := s.map fun s => gauge s.status.code
  successes := s.map fun s => gauge s.successes.toNat
  failures := s.map fun s => gauge s.failures.toNat

theorem Meter.Shown.ofStanding_eq_none_iff {s : Option Standing} :
    ofStanding s = ofStanding none ↔ s = none := by
  cases s <;> simp [ofStanding]

namespace Meters

def shown (m : Meters) (labels : Meter.Labels) : Meter.Shown :=
  ⟨m.instanceStatus.get? labels, m.successes.get? labels, m.failures.get? labels⟩

variable (m : Meters) (labels : Meter.Labels)

@[simp] theorem shown_initial : initial.shown labels = .ofStanding none := rfl

@[simp] theorem shown_recordProbe (service : String) (protocol : Probe.Protocol)
    (kind : Probe.Kind) (latency : Span) :
    (m.recordProbe service protocol kind latency).shown labels = m.shown labels := rfl

@[simp] theorem shown_recordDiscarded : m.recordDiscarded.shown labels = m.shown labels := rfl

@[simp] theorem shown_recordTransition (service : String) (t : Transition) :
    (m.recordTransition service t).shown labels = m.shown labels := rfl

theorem shown_setInstance (id service : String) (s : Standing) :
    (m.setInstance id service s.status s.successes s.failures).shown labels =
      if labels = [id, service] then .ofStanding (some s) else m.shown labels := by
  simp only [shown, setInstance, Table.get?_insert]
  split <;> rfl

theorem shown_removeInstance (id service : String) :
    (m.removeInstance id service).shown labels =
      if labels = [id, service] then .ofStanding none else m.shown labels := by
  simp only [shown, removeInstance, Table.get?_erase]
  split <;> rfl

end Meters

namespace Fleet

/-- What an outcome changes on the meters. -/
def Entry.countOutcome (t : Thresholds) (now : Timestamp) (probed : Instance)
    (outcome : Probe.Outcome) (e : Entry) (m : Meters) : Meters :=
  let m := m.recordProbe probed.serviceName probed.protocol outcome.kind outcome.latency
  match e.record.filter Instance.isActive with
  | none => m.recordDiscarded
  | some current =>
      let next := (e.standing.getD .initial).observe t now probed.protocol outcome
      let m := m.setInstance current.serviceId current.serviceName next.1.status next.1.successes
        next.1.failures
      match next.2 with
      | some change => m.recordTransition current.serviceName change
      | none => m

/-- What a call about this id changes on the meters. -/
def Entry.count (t : Thresholds) (now : Timestamp) (e : Entry) : Call → Meters → Meters
  | .register r =>
      if r.check.isOk ∧ e.hasLeft then (·.removeInstance r.serviceId r.serviceName) else id
  | .deregister _ =>
      match e.record with
      | some i => (·.removeInstance i.serviceId i.serviceName)
      | none => id
  | .updateMetadata _ _ => id
  | .purge subject =>
      match (e.purge subject).1 with
      | .ok r => (·.removeInstance r.serviceId r.serviceName)
      | .error _ => id
  | .applyOutcome probed outcome => e.countOutcome t now probed outcome

variable {f : Fleet}

theorem meters_meter (f : Fleet) (change : Meters → Meters) :
    (f.meter change).meters = f.meters.map change := rfl

theorem register_meters (f : Fleet) (t : Thresholds) (now : Timestamp) (r : Registration) :
    (f.register now r).2.meters =
      f.meters.map ((f.entry r.serviceId).count t now (.register r)) := by
  simp only [register, Catalog.register_eq, Entry.count]
  cases r.check with
  | error cause => simp [Except.isOk, Except.toBool]
  | ok _ =>
    simp only [isRevival_eq_hasLeft, Except.isOk, Except.toBool, true_and]
    split
    · rfl
    · exact Option.map_id_apply.symm

theorem deregister_meters (f : Fleet) (t : Thresholds) (now : Timestamp) (subject : String) :
    (f.deregister now subject).2.meters =
      f.meters.map ((f.entry subject).count t now (.deregister subject)) := by
  have hrecord : (f.entry subject).record = f.catalog.find? subject := rfl
  simp only [deregister, Catalog.deregister_eq, Entry.count, hrecord]
  cases f.catalog.find? subject with
  | none => exact Option.map_id_apply.symm
  | some i => rfl

theorem updateMetadata_meters (f : Fleet) (subject : String) (pairs : List (String × String)) :
    (f.updateMetadata subject pairs).2.meters = f.meters := by
  simp only [updateMetadata, Catalog.updateMetadata_eq]
  cases f.catalog.find? subject <;> rfl

theorem purge_meters (f : Fleet) (t : Thresholds) (now : Timestamp) (subject : String) :
    (f.purge subject).2.meters =
      f.meters.map ((f.entry subject).count t now (.purge subject)) := by
  simp only [Entry.count, ← (purge_entry f subject subject).1]
  simp only [purge]
  split
  · rfl
  · exact Option.map_id_apply.symm

theorem applyOutcome_meters (hf : f.catalog.Keyed) (now : Timestamp) (probed : Instance)
    (outcome : Probe.Outcome) : (f.applyOutcome now probed outcome).2.meters =
      f.meters.map ((f.entry probed.serviceId).countOutcome f.standings.thresholds now probed
        outcome) := by
  have hrecord : (f.entry probed.serviceId).record = f.catalog.find? probed.serviceId := rfl
  unfold Entry.countOutcome
  rw [hrecord]
  cases h : (f.catalog.find? probed.serviceId).filter Instance.isActive with
  | none =>
    simp only [applyOutcome, catalog_meter, h, meters_meter, Option.map_map]
    rfl
  | some current =>
    have hi : current.serviceId = probed.serviceId :=
      hf _ current (Option.eq_some_of_filter_eq_some h)
    have hstanding : (f.entry probed.serviceId).standing = f.standings.get? current.serviceId :=
      congrArg f.standings.get? hi.symm
    simp only [applyOutcome, catalog_meter, standings_meter, board_meter, h, hstanding,
      Standings.record_fst]
    cases ((f.standings.get? current.serviceId).getD .initial).observe f.standings.thresholds now
      probed.protocol outcome with
    | mk next change =>
      cases change with
      | none =>
        simp only [meters_meter, Option.map_map]
        rfl
      | some change =>
        simp only [meters_meter, Option.map_map]
        rfl

/-- A call changes the meters by what it finds under its id. -/
theorem perform_meters (hf : f.catalog.Keyed) (now : Timestamp) (c : Call) :
    (f.perform now c).2.meters =
      f.meters.map ((f.entry c.subject).count f.standings.thresholds now c) := by
  cases c with
  | register r => exact register_meters f _ now r
  | deregister subject => exact deregister_meters f _ now subject
  | updateMetadata subject pairs =>
    exact (updateMetadata_meters f subject pairs).trans Option.map_id_apply.symm
  | purge subject => exact purge_meters f _ now subject
  | applyOutcome probed outcome => exact applyOutcome_meters hf now probed outcome

end Fleet

end ServiceHealth
