import Mathlib.Data.List.Perm.Subperm
import ServiceHealth.Proofs.Fleet.Gauges
import ServiceHealth.Proofs.Fleet.Stores
import ServiceHealth.Proofs.Fleet.Succession

/-!
# Two counts of a fleet

Active instances are counted in the catalog and standings by status in a table of their own. Only
active instances have a standing, so that there are never more standings than active instances, and
as many exactly if none of them lacks one. A round that is recorded shows both counts.
-/
namespace ServiceHealth

/-- The number of instances that have a standing with a status. -/
def Standings.tracked (s : Standings) (status : Status) : Nat :=
  s.table.values.countP (·.status = status)

theorem Standings.tally_eq (s : Standings) :
    s.tally = ⟨s.tracked .healthy, s.tracked .unhealthy, s.tracked .unknown⟩ := by
  simp only [tally, Tally.ofList, List.count, List.countP_map]
  rfl

/-- Every standing has one of the statuses. -/
theorem Standings.sum_tracked (s : Standings) :
    s.tracked .healthy + s.tracked .unhealthy + s.tracked .unknown = s.size := by
  have hvalues : s.size = s.table.values.length := (List.length_map _).symm
  rw [hvalues]
  unfold tracked
  induction s.table.values with
  | nil => rfl
  | cons standing rest ih =>
    simp only [List.countP_cons, List.length_cons]
    cases standing.status <;> simp <;> omega

theorem Standings.tracked_le (s : Standings) (status : Status) : s.tracked status ≤ s.size := by
  have hsum := s.sum_tracked
  cases status <;> omega

namespace Fleet

variable {f : Fleet}

theorem Sound.mem_active_of_standing (hf : f.Sound) {id : String}
    (h : (f.standings.get? id).isSome) : id ∈ f.catalog.active.map (·.serviceId) := by
  have hactive : (f.catalog.find? id).any Instance.isActive :=
    (hf.inStep id).active_of_standing h
  obtain ⟨i, hi, hi'⟩ := (Option.any_eq_true _ _).mp hactive
  obtain rfl := hf.keyed id i hi
  exact List.mem_map.mpr ⟨i, (Catalog.mem_active hf.keyed).mpr ⟨hi, hi'⟩, rfl⟩

/-- There are never more standings than active instances, and as many exactly if each of these has
one. -/
theorem Sound.size_standings (hf : f.Sound) : f.standings.size ≤ f.catalog.activeCount ∧
    (f.standings.size = f.catalog.activeCount ↔
      ∀ i ∈ f.catalog.active, (f.standings.get? i.serviceId).isSome) := by
  have hsize : f.standings.table.keys.length = f.standings.size := List.length_map _
  have hcount : (f.catalog.active.map (·.serviceId)).length = f.catalog.activeCount :=
    List.length_map _
  have hsub : f.standings.table.keys ⊆ f.catalog.active.map (·.serviceId) := fun id hid =>
    hf.mem_active_of_standing (Table.mem_keys_iff.mp hid)
  have hsubperm := List.subperm_of_subset f.standings.table.nodup_keys hsub
  have hle := hsubperm.length_le
  rw [hsize, hcount] at hle
  refine ⟨hle, fun heq i hi => ?_, fun hall => ?_⟩
  · have hperm := hsubperm.perm_of_length_le (by omega)
    exact Table.mem_keys_iff.mp (hperm.symm.subset (List.mem_map_of_mem hi))
  · have hids : (f.catalog.active.map (·.serviceId)).Nodup :=
      List.pairwise_map.mpr (Watch.distinct_active hf.keyed)
    have hback : f.catalog.active.map (·.serviceId) ⊆ f.standings.table.keys := fun id hid => by
      obtain ⟨i, hi, rfl⟩ := List.mem_map.mp hid
      exact Table.mem_keys_iff.mpr (hall i hi)
    have hge := (List.subperm_of_subset hids hback).length_le
    omega

end Fleet

/-- The gauges of the fleet show how many instances are active, and how many have a standing with
each status, exactly as far as a gauge goes. -/
structure Meters.ShowsFleet (m : Meters) (f : Fleet) : Prop where
  active : m.instancesActive = Meter.gauge f.catalog.activeCount
  byStatus : ∀ status : Status, m.instancesByStatus.get? [status.label] =
    some (Meter.gauge (f.standings.tracked status))
  exact : f.catalog.activeCount < 2 ^ 63 → m.instancesActive.toInt = f.catalog.activeCount ∧
    ∀ status : Status, ∃ v, m.instancesByStatus.get? [status.label] = some v ∧
      v.toInt = f.standings.tracked status

/-- A round that is recorded shows what is counted at that moment. -/
theorem Round.showsFleet_record {f : Fleet} {duration : Span} {m : Meters}
    (hf : (record duration f).Sound) (h : (record duration f).meters = some m) :
    m.ShowsFleet (record duration f) := by
  obtain ⟨before, -, rfl⟩ := Option.map_eq_some_iff.mp h
  have hstatus (status : Status) : (((before.recordRound duration).setActive
      f.catalog.activeCount).setTally f.standings.tally).instancesByStatus.get? [status.label] =
        some (Meter.gauge (f.standings.tracked status)) := by
    rw [Standings.tally_eq]
    cases status <;> simp [Meters.setTally, Table.get?_insert, Status.label]
  refine ⟨rfl, hstatus, fun hcount => ⟨(Fleet.toInt_gauge hcount _).mp rfl, fun status => ?_⟩⟩
  have htracked : f.standings.tracked status ≤ f.catalog.activeCount :=
    Nat.le_trans (f.standings.tracked_le status) hf.size_standings.1
  exact ⟨_, hstatus status, (Fleet.toInt_gauge (Nat.lt_of_le_of_lt htracked hcount) _).mp rfl⟩

end ServiceHealth
