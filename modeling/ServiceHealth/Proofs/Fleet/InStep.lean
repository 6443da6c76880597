import ServiceHealth.Proofs.Fleet.Entry

/-!
# The stores stay in step

Records, standings and reports are three tables that every call changes piece by piece. After every
run they tell the same story: only active instances have a standing, an active instance has a
report exactly if it has a standing, and a report shows that standing and describes the record as
it is now.
-/
namespace ServiceHealth

/-- The health fields of a report are those of a standing. -/
structure Report.Shows (r : Report) (s : Standing) : Prop where
  status : r.status = s.status
  failures : r.failures = s.failures
  successes : r.successes = s.successes
  lastProbe : r.lastProbe = s.lastProbeAt
  lastProbeType : r.lastProbeType = s.lastProbeType
  message : r.message = s.lastMessage

/-- The descriptive fields of a report are those of a record. -/
structure Report.Describes (r : Report) (i : Instance) : Prop where
  serviceId : r.serviceId = i.serviceId
  serviceName : r.serviceName = i.serviceName
  address : r.address = i.address
  port : r.port = i.port
  metadata : r.metadata = i.metadata

theorem Report.shows_make (i : Instance) (s : Standing) (outcome : Option Probe.Outcome) :
    (make i s outcome).Shows s := ⟨rfl, rfl, rfl, rfl, rfl, rfl⟩

theorem Report.describes_make (i : Instance) (s : Standing) (outcome : Option Probe.Outcome) :
    (make i s outcome).Describes i := ⟨rfl, rfl, rfl, rfl, rfl⟩

theorem Report.Shows.describe {r : Report} {s : Standing} (h : r.Shows s) (i : Instance) :
    (r.describe i).Shows s :=
  ⟨h.status, h.failures, h.successes, h.lastProbe, h.lastProbeType, h.message⟩

theorem Report.describes_describe {r : Report} {i : Instance} (h : r.serviceId = i.serviceId) :
    (r.describe i).Describes i := ⟨h, rfl, rfl, rfl, rfl⟩

namespace Fleet

/-- Record, standing and report under one id agree. -/
structure Entry.InStep (e : Entry) : Prop where
  active_of_standing : e.standing.isSome → e.isActive
  standing_iff_report : e.isActive → (e.standing.isSome ↔ e.report.isSome)
  report_shows : e.isActive → ∀ s ∈ e.standing, ∀ r ∈ e.report, r.Shows s
  report_describes : ∀ r ∈ e.report, ∃ i ∈ e.record, r.Describes i

namespace Entry

variable {t : Thresholds} {now : Timestamp} {e : Entry}

/-- Without standing and report there is nothing to disagree. -/
theorem inStep_of_unprobed (record : Option Instance) : InStep ⟨record, none, none⟩ := by
  constructor <;> simp

/-- Where there is no record there is nothing else. -/
theorem InStep.eq_none (h : e.InStep) (hrecord : e.record = none) :
    e.standing = none ∧ e.report = none := by
  constructor
  · by_contra hs
    have := h.active_of_standing (Option.isSome_iff_ne_none.mpr hs)
    simp [isActive, hrecord] at this
  · by_contra hr
    obtain ⟨r, hr⟩ := Option.ne_none_iff_exists'.mp hr
    obtain ⟨i, hi, -⟩ := h.report_describes r hr
    simp [hrecord] at hi

/-- An instance that has left has no standing. -/
theorem InStep.standing_eq_none (h : e.InStep) (hleft : e.hasLeft) : e.standing = none := by
  by_contra hs
  have hactive := h.active_of_standing (Option.isSome_iff_ne_none.mpr hs)
  unfold hasLeft at hleft
  unfold isActive at hactive
  cases hrecord : e.record <;> simp_all

/-- Standing and report go together unless the instance has left, when the report may outlive the
standing. -/
theorem InStep.agree (h : e.InStep) (hleft : ¬ e.hasLeft) :
    (e.standing.isSome ↔ e.report.isSome) ∧ ∀ s ∈ e.standing, ∀ r ∈ e.report, r.Shows s := by
  cases hrecord : e.record with
  | none =>
    obtain ⟨hs, hr⟩ := h.eq_none hrecord
    simp [hs, hr]
  | some i =>
    have hactive : e.isActive := by
      simpa [isActive, hasLeft, hrecord] using hleft
    exact ⟨h.standing_iff_report hactive, h.report_shows hactive⟩

/-- A new record may take the place of the old one unless it brings an instance back. -/
theorem InStep.describe (h : e.InStep) {i : Instance}
    (hid : ∀ j ∈ e.record, j.serviceId = i.serviceId) (hactive : e.isActive → i.isActive)
    (hback : e.hasLeft → ¬ i.isActive) : (e.describe i).InStep where
  active_of_standing hs := by
    simpa [Entry.describe, isActive] using hactive (h.active_of_standing hs)
  standing_iff_report hi := by
    have hleft : ¬ e.hasLeft := fun hl => hback hl (by simpa [Entry.describe, isActive] using hi)
    simpa [Entry.describe] using (h.agree hleft).1
  report_shows hi s hs r hr := by
    have hleft : ¬ e.hasLeft := fun hl => hback hl (by simpa [Entry.describe, isActive] using hi)
    obtain ⟨old, hold, rfl⟩ := Option.map_eq_some_iff.mp hr
    exact ((h.agree hleft).2 s hs old hold).describe i
  report_describes r hr := by
    obtain ⟨old, hold, rfl⟩ := Option.map_eq_some_iff.mp hr
    obtain ⟨j, hj, hdescribes⟩ := h.report_describes old hold
    exact ⟨i, rfl, Report.describes_describe (hdescribes.serviceId.trans (hid j hj))⟩

/-- An instance that leaves keeps only its report. -/
theorem InStep.leave (h : e.InStep) {i j : Instance} (hi : i ∈ e.record) (hj : ¬ j.isActive)
    (hsame : ∀ r : Report, r.Describes i → r.Describes j) : InStep ⟨some j, none, e.report⟩ where
  active_of_standing hs := by simp at hs
  standing_iff_report hactive := absurd (by simpa [isActive] using hactive) hj
  report_shows _ s hs := by simp at hs
  report_describes r hr := by
    obtain ⟨k, hk, hdescribes⟩ := h.report_describes r hr
    obtain rfl : i = k := Option.mem_unique hi hk
    exact ⟨j, rfl, hsame r hdescribes⟩

/-- An active instance that was just probed. -/
theorem inStep_of_probed {i : Instance} (hi : i.isActive) (s : Standing) (outcome : Probe.Outcome) :
    InStep ⟨some i, some s, some (.make i s (some outcome))⟩ where
  active_of_standing _ := by simpa [isActive] using hi
  standing_iff_report _ := by simp
  report_shows _ s' hs r hr := by
    obtain rfl : s = s' := by simpa using hs
    obtain rfl : Report.make i s (some outcome) = r := by simpa using hr
    exact Report.shows_make i s _
  report_describes r hr := by
    obtain rfl : Report.make i s (some outcome) = r := by simpa using hr
    exact ⟨i, rfl, Report.describes_make i s _⟩

/-- Every call keeps the entry that it is about in step. -/
theorem InStep.perform {c : Call} (hkeyed : ∀ i ∈ e.record, i.serviceId = c.subject)
    (h : e.InStep) : (e.perform t now c).2.InStep := by
  cases c with
  | register r =>
    simp only [Entry.perform, register]
    split
    · exact h
    split
    · exact inStep_of_unprobed _
    · rename_i hleft
      exact h.describe hkeyed (fun _ => rfl) (fun hl => absurd hl hleft)
  | deregister id =>
    simp only [Entry.perform, deregister]
    split
    · exact h
    · rename_i i hi
      refine h.leave hi ?_ fun r hr => ⟨hr.1, hr.2, hr.3, hr.4, hr.5⟩
      simp [Instance.isActive]
  | updateMetadata id pairs =>
    simp only [Entry.perform, updateMetadata]
    split
    · exact h
    · rename_i i hi
      refine h.describe (fun j hj => ?_) (fun hactive => ?_) (fun hleft => ?_)
      · obtain rfl : i = j := Option.mem_unique hi hj
        rfl
      · have : i.isActive := by simpa [isActive, hi] using hactive
        exact this
      · have : ¬ i.isActive := by simpa [hasLeft, hi] using hleft
        exact this
  | purge id => exact inStep_of_unprobed _
  | applyOutcome probed outcome =>
    simp only [Entry.perform, applyOutcome]
    split
    · exact h
    · rename_i current hcurrent
      obtain ⟨-, hactive⟩ := Option.filter_eq_some_iff.mp hcurrent
      exact inStep_of_probed hactive _ _

end Entry

/-- After every run the stores agree under every id. -/
theorem entry_inStep_run (t : Thresholds) (metered : Bool) (calls : List (Timestamp × Call))
    (id : String) : (((empty t metered).run calls).entry id).InStep :=
  entry_run_induction (P := fun _ e => e.InStep) (fun _ => Entry.inStep_of_unprobed none)
    (fun _ _ _ hkeyed h => h.perform hkeyed) metered calls id

/-- Records, standings and reports never drift apart: whatever calls were made, only an active
record has a standing; under the id of an active record there is a standing exactly if there is a
report, and then the report shows it; and a report describes the record under its id. -/
theorem stores_never_drift_apart (t : Thresholds) (metered : Bool)
    (calls : List (Timestamp × Call)) (id : String) :
    let f := (empty t metered).run calls
    ((f.standings.get? id).isSome → f.catalog.isActive id) ∧
    (f.catalog.isActive id →
      ((f.standings.get? id).isSome ↔ (f.board.find? id).isSome) ∧
      ∀ s ∈ f.standings.get? id, ∀ r ∈ f.board.find? id, r.Shows s) ∧
    ∀ r ∈ f.board.find? id, ∃ i ∈ f.catalog.find? id, r.Describes i := by
  intro f
  have h : (f.entry id).InStep := entry_inStep_run t metered calls id
  rw [Catalog.isActive_eq]
  exact ⟨h.active_of_standing, fun hactive =>
    ⟨h.standing_iff_report hactive, h.report_shows hactive⟩, h.report_describes⟩

end Fleet

end ServiceHealth
