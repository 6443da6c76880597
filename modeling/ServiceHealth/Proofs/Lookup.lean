import ServiceHealth.Health.Report
import ServiceHealth.Service.Catalog
import ServiceHealth.Table.Lemmas

/-!
# Looking up after a change

What catalog, standings and board hold under an id after each of their operations. Nothing else is
said of the operations later on.
-/
namespace ServiceHealth

namespace Catalog

/-- Every record is stored under its own id. -/
def Keyed (c : Catalog) : Prop := ∀ id, ∀ i ∈ c.find? id, i.serviceId = id

@[simp] theorem find?_put (c : Catalog) (i : Instance) (id : String) :
    (c.put i).find? id = if id = i.serviceId then some i else c.find? id :=
  Table.get?_insert c.records i.serviceId i id

theorem get_eq (c : Catalog) (id : String) :
    c.get id = match c.find? id with
      | some i => .ok i
      | none => .error (.notFound .record id) := rfl

theorem isActive_eq (c : Catalog) (id : String) :
    c.isActive id = (c.find? id).any Instance.isActive := by
  unfold isActive
  cases c.find? id <;> rfl

theorem register_eq (c : Catalog) (now : Timestamp) (r : Registration) :
    c.register now r = match r.check with
      | .error cause => .error cause
      | .ok () =>
          let i := Instance.ofRegistration r
            (((c.find? r.serviceId).map (·.registeredAt)).getD now)
          .ok (⟨i, c.find? r.serviceId⟩, c.put i) := by
  unfold register
  cases r.check <;> rfl

theorem deregister_eq (c : Catalog) (now : Timestamp) (id : String) :
    c.deregister now id = match c.find? id with
      | none => .error (.notFound .record id)
      | some i =>
          let i := { i with deregisteredAt := some (i.deregisteredAt.getD now) }
          .ok (i, c.put i) := by
  simp only [deregister, get_eq]
  cases c.find? id <;> rfl

theorem updateMetadata_eq (c : Catalog) (id : String) (pairs : List (String × String)) :
    c.updateMetadata id pairs = match c.find? id with
      | none => .error (.notFound .record id)
      | some i =>
          let i := { i with metadata := i.metadata.merge pairs }
          .ok (i, c.put i) := by
  simp only [updateMetadata, get_eq]
  cases c.find? id <;> rfl

/-- Purging removes a record that says that its instance has left, and returns it. -/
theorem purge_fst (c : Catalog) (id : String) :
    (c.purge id).1 = (c.find? id).filter fun i => !i.isActive := by
  unfold purge
  cases c.find? id with
  | none => rfl
  | some i => cases h : i.isActive <;> simp [h, Option.filter]

theorem find?_purge (c : Catalog) (id j : String) :
    (c.purge id).2.find? j =
      if j = id then (c.find? id).filter Instance.isActive else c.find? j := by
  unfold purge
  split
  · rename_i i h
    split
    · rename_i hi
      split
      · subst j
        simp [h, hi, Option.filter]
      · rfl
    · rename_i hi
      rw [h, find?, Table.get?_erase]
      simp [hi, Option.filter, find?]
  · rename_i h
    split
    · subst j
      simp [h]
    · rfl

theorem ofService_ascending {c : Catalog} (hc : c.Keyed) (name : String) :
    (c.ofService name).Pairwise fun i j => i.serviceId < j.serviceId :=
  ((Table.pairwise_values hc).filter _).imp compareOfLessAndEq_eq_lt.mp

theorem active_ascending {c : Catalog} (hc : c.Keyed) :
    c.active.Pairwise fun i j => i.serviceId < j.serviceId :=
  ((Table.pairwise_values hc).filter _).imp compareOfLessAndEq_eq_lt.mp

theorem mem_active {c : Catalog} (hc : c.Keyed) {i : Instance} :
    i ∈ c.active ↔ c.find? i.serviceId = some i ∧ i.isActive := by
  rw [active, List.mem_filter, Table.mem_values_iff hc]
  rfl

theorem mem_ofService {c : Catalog} (hc : c.Keyed) {name : String} {i : Instance} :
    i ∈ c.ofService name ↔
      c.find? i.serviceId = some i ∧ Text.fold i.serviceName = Text.fold name := by
  rw [ofService, List.mem_filter, Table.mem_values_iff hc]
  exact and_congr_right fun _ => decide_eq_true_iff

end Catalog

namespace Standings

@[simp] theorem get?_remove (s : Standings) (id j : String) :
    (s.remove id).get? j = if j = id then none else s.get? j :=
  Table.get?_erase s.table id j

theorem record_fst (s : Standings) (now : Timestamp) (id : String) (protocol : Probe.Protocol)
    (outcome : Probe.Outcome) : (s.record now id protocol outcome).1 =
      ((s.get? id).getD .initial).observe s.thresholds now protocol outcome := rfl

theorem get?_record (s : Standings) (now : Timestamp) (id : String) (protocol : Probe.Protocol)
    (outcome : Probe.Outcome) (j : String) : (s.record now id protocol outcome).2.get? j =
      if j = id then some (s.record now id protocol outcome).1.1 else s.get? j :=
  Table.get?_insert s.table id _ j

end Standings

@[simp] theorem Report.make_serviceId (i : Instance) (s : Standing)
    (outcome : Option Probe.Outcome) : (make i s outcome).serviceId = i.serviceId := rfl

namespace Board

/-- Every report is stored under its own id. -/
def Keyed (b : Board) : Prop := ∀ id, ∀ r ∈ b.find? id, r.serviceId = id

@[simp] theorem find?_remove (b : Board) (id j : String) :
    (b.remove id).find? j = if j = id then none else b.find? j :=
  Table.get?_erase b.reports id j

@[simp] theorem find?_post (b : Board) (r : Report) (j : String) :
    (b.post r).2.find? j = if j = r.serviceId then some r else b.find? j :=
  Table.get?_insert b.reports r.serviceId r j

@[simp] theorem find?_refresh (b : Board) (i : Instance) (j : String) :
    (b.refresh i).2.find? j =
      if j = i.serviceId then (b.find? j).map (·.describe i) else b.find? j :=
  Table.get?_modify b.reports i.serviceId (·.describe i) j

theorem purge_eq (b : Board) (id : String) :
    b.purge id = (match b.find? id with
      | some r => .ok r
      | none => .error (.notFound .report id), b.remove id) := rfl

theorem get_eq_ok_iff {b : Board} {id : String} {r : Report} :
    b.get id = .ok r ↔ b.find? id = some r := by
  unfold get
  cases b.find? id <;> simp

theorem all_ascending {b : Board} (hb : b.Keyed) :
    b.all.Pairwise fun r s => r.serviceId < s.serviceId :=
  (Table.pairwise_values hb).imp compareOfLessAndEq_eq_lt.mp

theorem mem_all {b : Board} (hb : b.Keyed) {r : Report} :
    r ∈ b.all ↔ b.find? r.serviceId = some r :=
  Table.mem_values_iff hb

/-- The reports on a service are those of all reports that carry its name. -/
theorem ofService_eq (b : Board) (name : String) : b.ofService name =
    b.all.filter fun r => Text.fold r.serviceName = Text.fold name :=
  b.reports.values_filter _

theorem ofService_ascending {b : Board} (hb : b.Keyed) (name : String) :
    (b.ofService name).Pairwise fun r s => r.serviceId < s.serviceId := by
  rw [ofService_eq]
  exact (all_ascending hb).filter _

end Board

end ServiceHealth
