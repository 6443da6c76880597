import ServiceHealth.Proofs.Fleet.History

/-!
# Routing to healthy instances

Readers are given the active instances of a service whose last report says healthy. The question is
answered from catalog and board, not from the standings. Still an instance is given exactly if its
outcomes since the last reset have earned it.
-/
namespace ServiceHealth.Fleet

variable {f : Fleet}

theorem mem_healthyInstances (hf : f.catalog.Keyed) {name : String} {i : Instance} :
    i ∈ f.healthyInstances name ↔ f.catalog.find? i.serviceId = some i ∧
      Text.fold i.serviceName = Text.fold name ∧ i.isActive ∧
      ∃ r ∈ f.board.find? i.serviceId, r.status = .healthy := by
  have hreport : ((f.board.find? i.serviceId).map Report.isHealthy).getD false = true ↔
      ∃ r ∈ f.board.find? i.serviceId, r.status = .healthy := by
    cases f.board.find? i.serviceId <;> simp [Report.isHealthy]
  rw [healthyInstances, List.mem_filter, Catalog.mem_ofService hf, Bool.and_eq_true, hreport,
    and_assoc]

/-- Under an active id the report says what the standing says. -/
theorem Entry.InStep.healthy_iff {e : Entry} (h : e.InStep) (hactive : e.isActive) :
    (∃ r ∈ e.report, r.status = .healthy) ↔ ∃ s ∈ e.standing, s.status = .healthy := by
  have hboth := h.standing_iff_report hactive
  have hshows := h.report_shows hactive
  cases hs : e.standing with
  | none => simp_all
  | some s =>
    cases hr : e.report with
    | none => simp_all
    | some r => simp [(hshows s hs r hr).status]

/-- The initial standing is made healthy by the outcomes that earn it. -/
theorem standingAfter_healthy_iff (t : Thresholds) (readings : List Reading) :
    (∃ s ∈ standingAfter t readings, s.status = .healthy) ↔
      Earned t.needed (readings.map Reading.success) := by
  rw [earned_iff t.needed_pos, ← Standing.status_after_initial_iff]
  unfold standingAfter
  split
  · subst readings
    simp [Standing.initial, Status.ofSuccess]
  · simp [Status.ofSuccess]

/-- The call ends what was known of the health under its id: the instance leaves or is purged, or
it comes back. -/
def StartsOver (f : Fleet) : Call → Prop
  | .register r => ∃ i ∈ f.catalog.find? r.serviceId, ¬ i.isActive
  | .deregister _ => True
  | .updateMetadata _ _ => False
  | .purge _ => True
  | .applyOutcome _ _ => False

theorem standing_of_startsOver (hf : f.catalog.Keyed) {c : Call} (h : (f.entry c.subject).InStep)
    (now : Timestamp) (hc : f.StartsOver c) :
    ((f.perform now c).2.entry c.subject).standing = none := by
  rw [entry_perform_self now hf c]
  cases c with
  | register r =>
    obtain ⟨i, hi, hleft⟩ := hc
    have hback : (f.entry (Call.register r).subject).hasLeft := by
      simpa [Entry.hasLeft, entry, Call.subject, Option.mem_def.mp hi] using hleft
    simp only [Entry.perform, Entry.register]
    split
    · exact h.standing_eq_none hback
    · rw [if_pos hback]
  | deregister id =>
    simp only [Entry.perform, Entry.deregister]
    split
    · rename_i hrecord
      exact (h.eq_none hrecord).1
    · rfl
  | updateMetadata id pairs => exact hc.elim
  | purge id => rfl
  | applyOutcome probed outcome => exact hc.elim

/-- After a call with which the health starts over only later outcomes count. -/
theorem readings_of_startsOver (t : Thresholds) (metered : Bool) (calls : List (Timestamp × Call))
    (now : Timestamp) {c : Call} (hc : ((empty t metered).run calls).StartsOver c)
    (later : List (Timestamp × Call)) :
    (empty t metered).readings c.subject (calls ++ (now, c) :: later) =
      (((empty t metered).run calls).perform now c).2.readings c.subject later := by
  have hnone := standing_of_startsOver (keyed_run t metered calls)
    (entry_inStep_run t metered calls c.subject) now hc
  have hforgotten : (empty t metered).readings c.subject (calls ++ [(now, c)]) = [] := by
    rw [← run_concat _ _ (now, c), standing_run] at hnone
    by_contra h
    simp [standingAfter, h] at hnone
  have hcalls : calls ++ (now, c) :: later = calls ++ [(now, c)] ++ later := by simp
  rw [readings, hcalls, events_append, Event.sinceReset_append_of_nil hforgotten, run_concat,
    readings]

/-- Readers are given exactly the instances that earned it: after every run they come in the order
of their ids, and they are the current active records of the service, its name compared in any
letter case, whose outcomes since the last reset hold a full streak of successes with no full
streak of failures after it. When an instance leaves, is purged or comes back, its outcomes until
then are out of account. -/
theorem healthyInstances_are_earned (t : Thresholds) (metered : Bool)
    (calls : List (Timestamp × Call)) (name : String) :
    let f := (empty t metered).run calls
    ((f.healthyInstances name).Pairwise fun i j => i.serviceId < j.serviceId) ∧
    (∀ i, i ∈ f.healthyInstances name ↔ f.catalog.find? i.serviceId = some i ∧
      Text.fold i.serviceName = Text.fold name ∧ i.isActive ∧
      Earned t.needed
        (((empty t metered).readings i.serviceId calls).map Reading.success)) ∧
    ∀ now c, f.StartsOver c → ∀ later,
      (empty t metered).readings c.subject (calls ++ (now, c) :: later) =
        (f.perform now c).2.readings c.subject later := by
  intro f
  have hkeyed : f.catalog.Keyed := keyed_run t metered calls
  refine ⟨(Catalog.ofService_ascending hkeyed name).filter _, fun i => ?_,
    fun now c hc later => readings_of_startsOver t metered calls now hc later⟩
  rw [mem_healthyInstances hkeyed]
  refine and_congr_right fun hrecord => and_congr_right fun _ => and_congr_right fun hactive => ?_
  have hactive' : (f.entry i.serviceId).isActive := by
    simpa [Entry.isActive, entry, hrecord] using hactive
  have hstep : (f.entry i.serviceId).InStep := entry_inStep_run t metered calls i.serviceId
  have hstanding : (f.entry i.serviceId).standing =
      standingAfter t ((empty t metered).readings i.serviceId calls) :=
    standing_run t metered calls i.serviceId
  rw [← standingAfter_healthy_iff, ← hstanding]
  exact hstep.healthy_iff hactive'

end ServiceHealth.Fleet
