import ServiceHealth.Proofs.Fleet.Routing

/-!
# Presence

Whether an outcome counts is decided by the record as it is when the outcome comes in, not as it was
when the probe was sent. So all that matters is whether the instance is there by then, and of that
only registrations and departures decide.
-/
namespace ServiceHealth.Fleet

/-- What a call says about the presence of an instance: one that registers is there and one that
leaves is not, if the call succeeds. -/
def presence? (f : Fleet) (id : String) (now : Timestamp) : Call → Option Bool
  | .register r => if r.serviceId = id ∧ (f.register now r).1.isOk then some true else none
  | .deregister subject =>
      if subject = id ∧ (f.deregister now subject).1.isOk then some false else none
  | .updateMetadata _ _ => none
  | .purge _ => none
  | .applyOutcome _ _ => none

/-- The last thing that calls say about the presence of an instance, if they say anything. -/
def lastPresence? (id : String) (f : Fleet) : List (Timestamp × Call) → Option Bool
  | [] => none
  | (now, c) :: rest => (lastPresence? id (f.perform now c).2 rest).or (f.presence? id now c)

variable {f : Fleet} {id : String}

theorem presence?_of_ne {c : Call} (hid : id ≠ c.subject) (now : Timestamp) :
    f.presence? id now c = none := by
  cases c with
  | register r => exact if_neg fun h => hid h.1.symm
  | deregister subject => exact if_neg fun h => hid h.1.symm
  | updateMetadata subject pairs => rfl
  | purge subject => rfl
  | applyOutcome probed outcome => rfl

theorem isActive_eq_entry (f : Fleet) (id : String) :
    f.catalog.isActive id = (f.entry id).isActive := Catalog.isActive_eq f.catalog id

/-- An instance is there after a call if the call says so, and as before if it says nothing. -/
theorem isActive_perform (hf : f.catalog.Keyed) (now : Timestamp) (c : Call) :
    (f.perform now c).2.catalog.isActive id =
      (f.presence? id now c).getD (f.catalog.isActive id) := by
  simp only [isActive_eq_entry]
  by_cases hid : id = c.subject
  · subst id
    rw [entry_perform_self now hf c]
    cases c with
    | register r =>
      have hanswer := (register_entry f now r.serviceId r).1
      simp only [Entry.perform, presence?, Call.subject, hanswer, true_and]
      cases hcheck : r.check with
      | error cause => simp [Entry.register, hcheck, Except.isOk, Except.toBool]
      | ok _ =>
        -- the new record is active, whether or not the instance had left
        have hactive : ((f.entry r.serviceId).register now r).2.isActive := by
          simp only [Entry.register, hcheck]
          split <;> rfl
        simpa [Entry.register, hcheck, Except.isOk, Except.toBool] using hactive
    | deregister subject =>
      have hanswer := (deregister_entry now subject hf subject).1
      simp only [Entry.perform, presence?, Call.subject, hanswer, true_and, Entry.deregister]
      split
      · rfl
      · rfl
    | updateMetadata subject pairs =>
      simp only [Entry.perform, Entry.updateMetadata, presence?]
      split
      · rfl
      · rename_i i hrecord
        simp [Entry.isActive, Entry.describe, Instance.isActive, hrecord]
    | purge subject =>
      simp only [Entry.perform, Entry.purge, presence?, Call.subject]
      cases hrecord : (f.entry subject).record with
      | none => simp [Entry.isActive, hrecord]
      | some i => cases hi : i.isActive <;> simp [Entry.isActive, hrecord, hi, Option.filter]
    | applyOutcome probed outcome =>
      simp only [Entry.perform, Entry.applyOutcome, presence?]
      split
      · rfl
      · rename_i current hcurrent
        obtain ⟨hrecord, hactive⟩ := Option.filter_eq_some_iff.mp hcurrent
        simp [Entry.isActive, hrecord, hactive]
  · rw [entry_perform_of_ne now id hf hid, presence?_of_ne hid]
    rfl

/-- After a run an instance is there if the last registration or departure was a registration. -/
theorem isActive_run (hf : f.catalog.Keyed) (calls : List (Timestamp × Call)) :
    (f.run calls).catalog.isActive id =
      (f.lastPresence? id calls).getD (f.catalog.isActive id) := by
  induction calls generalizing f with
  | nil => rfl
  | cons call rest ih =>
    obtain ⟨now, c⟩ := call
    have hrest := ih (keyed_perform hf now c)
    rw [run, hrest, isActive_perform hf now c, lastPresence?]
    cases (f.perform now c).2.lastPresence? id rest <;> rfl

/-- An outcome for an instance that is not there is counted as discarded, and that is all. -/
theorem applyOutcome_of_not_active {probed : Instance}
    (h : f.catalog.isActive probed.serviceId = false) (now : Timestamp) (outcome : Probe.Outcome) :
    f.applyOutcome now probed outcome = (none, (f.meter (·.recordProbe probed.serviceName
      probed.protocol outcome.kind outcome.latency)).meter Meters.recordDiscarded) := by
  have hfilter : (f.catalog.find? probed.serviceId).filter Instance.isActive = none := by
    rw [Catalog.isActive_eq, ← Option.isSome_filter] at h
    exact Option.isNone_iff_eq_none.mp (Option.isSome_eq_false_iff.mp h)
  simp only [applyOutcome, catalog_meter, hfilter]

theorem applyOutcome_isSome (f : Fleet) (now : Timestamp) (probed : Instance)
    (outcome : Probe.Outcome) :
    (f.applyOutcome now probed outcome).1.isSome = f.catalog.isActive probed.serviceId := by
  rw [Catalog.isActive_eq, ← Option.isSome_filter]
  simp only [applyOutcome, catalog_meter]
  cases (f.catalog.find? probed.serviceId).filter Instance.isActive <;> rfl

theorem not_active_of_deregistered (hf : f.catalog.Keyed) {now : Timestamp}
    (h : (f.deregister now id).1.isOk) :
    (f.perform now (.deregister id)).2.catalog.isActive id = false := by
  have hsays : f.presence? id now (.deregister id) = some false := if_pos ⟨rfl, h⟩
  rw [isActive_perform hf, hsays, Option.getD_some]

/-- A result for an instance that has left since it was sent for is discarded, and changes no
record, standing or report, as long as the instance has not registered again. Once it has, the
result counts, whichever registration the probe was sent for. In either case nothing that came in
before the instance left is part of its health. -/
theorem late_outcome_is_discarded_until_return (t : Thresholds) (metered : Bool)
    (first second later : List (Timestamp × Call)) (left : Timestamp) (id : String)
    (probed : Instance)
    (htaken : ((empty t metered).run first).catalog.find? id = some probed)
    (hleft : (((empty t metered).run (first ++ second)).deregister left id).1.isOk) :
    let gone := (((empty t metered).run (first ++ second)).perform left (.deregister id)).2
    let f := gone.run later
    (gone.lastPresence? id later ≠ some true → ∀ now outcome,
      (f.applyOutcome now probed outcome).1 = none ∧
      (f.applyOutcome now probed outcome).2.catalog = f.catalog ∧
      (f.applyOutcome now probed outcome).2.standings = f.standings ∧
      (f.applyOutcome now probed outcome).2.board = f.board) ∧
    (gone.lastPresence? id later = some true → ∀ now outcome,
      (f.applyOutcome now probed outcome).1.isSome) ∧
    (empty t metered).readings id (first ++ second ++ (left, .deregister id) :: later) =
      gone.readings id later := by
  intro gone f
  have hkeyed := keyed_run t metered (first ++ second)
  have hsubject : probed.serviceId = id := keyed_run t metered first id probed htaken
  have hgone : gone.catalog.isActive id = false := not_active_of_deregistered hkeyed hleft
  have hpresent : f.catalog.isActive id = (gone.lastPresence? id later).getD false := by
    rw [← hgone]
    exact isActive_run (keyed_perform hkeyed left _) later
  refine ⟨fun hback now outcome => ?_, fun hback now outcome => ?_, ?_⟩
  · have hnot : f.catalog.isActive probed.serviceId = false := by
      rw [hsubject, hpresent]
      cases hlast : gone.lastPresence? id later with
      | none => rfl
      | some present =>
        cases present with
        | false => rfl
        | true => exact absurd hlast hback
    rw [applyOutcome_of_not_active hnot]
    exact ⟨rfl, rfl, rfl, rfl⟩
  · rw [applyOutcome_isSome, hsubject, hpresent, hback, Option.getD_some]
  · exact readings_of_startsOver t metered (first ++ second) left (c := .deregister id) trivial
      later

/-- A purge after the instance has left does not let the result in. -/
theorem late_outcome_is_discarded_after_purge :
    let r : Registration := ⟨"i1", "orders", "10.0.0.5", 8080, .http, .empty⟩
    let first : List (Timestamp × Call) := [(⟨0⟩, .register r)]
    let second : List (Timestamp × Call) := [(⟨1⟩, .updateMetadata "i1" [("zone", "a")])]
    let later : List (Timestamp × Call) := [(⟨3⟩, .purge "i1")]
    let gone := (((empty ⟨1, 1⟩ false).run (first ++ second)).perform ⟨2⟩ (.deregister "i1")).2
    ((empty ⟨1, 1⟩ false).run first).catalog.find? "i1" = some (.ofRegistration r ⟨0⟩) ∧
    (((empty ⟨1, 1⟩ false).run (first ++ second)).deregister ⟨2⟩ "i1").1.isOk ∧
    gone.lastPresence? "i1" later ≠ some true ∧
    ((gone.run later).applyOutcome ⟨4⟩ (.ofRegistration r ⟨0⟩) (.timedOut ⟨0⟩)).1 = none := by
  intro r first second later gone
  have htaken : ((empty ⟨1, 1⟩ false).run first).catalog.find? "i1" =
      some (.ofRegistration r ⟨0⟩) := by decide
  have hleft : (((empty ⟨1, 1⟩ false).run (first ++ second)).deregister ⟨2⟩ "i1").1.isOk := by
    decide
  have hback : gone.lastPresence? "i1" later ≠ some true := by decide
  have hlate := late_outcome_is_discarded_until_return ⟨1, 1⟩ false first second later ⟨2⟩ "i1"
    (.ofRegistration r ⟨0⟩) htaken hleft
  exact ⟨htaken, hleft, hback, (hlate.1 hback ⟨4⟩ (.timedOut ⟨0⟩)).1⟩

/-- A result can cross a departure: the probe was sent before the instance left and came in after
it had registered again, and the standing that had started over takes it in. -/
theorem late_outcome_counts_after_return :
    let r : Registration := ⟨"i1", "orders", "10.0.0.5", 8080, .http, .empty⟩
    let taken := (empty ⟨1, 1⟩ false).run [(⟨0⟩, .register r)]
    let back := taken.run [(⟨1⟩, .deregister "i1"), (⟨2⟩, .register r)]
    ∃ probed ∈ taken.catalog.find? "i1",
      (taken.deregister ⟨1⟩ "i1").1.isOk ∧ back.standings.get? "i1" = none ∧
      (back.applyOutcome ⟨3⟩ probed (.timedOut ⟨0⟩)).1.isSome ∧
      ((back.applyOutcome ⟨3⟩ probed (.timedOut ⟨0⟩)).2.standings.get? "i1").map (·.status) =
        some .unhealthy := by
  refine ⟨.ofRegistration ⟨"i1", "orders", "10.0.0.5", 8080, .http, .empty⟩ ⟨0⟩, ?_, ?_, ?_, ?_, ?_⟩
  all_goals decide

end ServiceHealth.Fleet
