import Mathlib.Algebra.Group.Nat.Defs
import ServiceHealth.Proofs.Fleet.InStep
import ServiceHealth.Proofs.Metering

/-!
# Gauges of instances

The tables are keyed by id, the gauges of an instance by its id and its name. A call writes them
under the one name that it sees, so they keep up with the standings as long as the name stays; a
registration that gives another name to an instance with a standing leaves the samples under the old
name behind.
-/
namespace ServiceHealth.Fleet

namespace Entry

/-- What should be shown under a name: the standing, if the record has that name. -/
def standingUnder (e : Entry) (name : String) : Option Standing :=
  if e.record.any (·.serviceName = name) then e.standing else none

/-- The call gives another name to an instance that has a standing. -/
def renames (e : Entry) : Call → Bool
  | .register r =>
      r.check.isOk && e.standing.isSome && e.record.any fun i => i.serviceName ≠ r.serviceName
  | _ => false

/-- What a call writes into the gauges of its instance: the name, and the standing that is shown
there from then on, if any. -/
def written (t : Thresholds) (now : Timestamp) (e : Entry) :
    Call → Option (String × Option Standing)
  | .register r => if r.check.isOk ∧ e.hasLeft then some (r.serviceName, none) else none
  | .deregister _ => e.record.map fun i => (i.serviceName, none)
  | .updateMetadata _ _ => none
  | .purge subject => (e.purge subject).1.toOption.map fun r => (r.serviceName, none)
  | .applyOutcome probed outcome =>
      (e.record.filter Instance.isActive).map fun current => (current.serviceName,
        some ((e.standing.getD .initial).observe t now probed.protocol outcome).1)

variable {t : Thresholds} {now : Timestamp} {e : Entry} {id : String}

theorem standingUnder_eq {i : Instance} (h : e.record = some i) (name : String) :
    e.standingUnder name = if i.serviceName = name then e.standing else none := by
  simp [standingUnder, h]

theorem standingUnder_of_none (h : e.standing = none) (name : String) :
    e.standingUnder name = none := by
  unfold standingUnder
  split
  · exact h
  · rfl

theorem standingUnder_of_ne {i : Instance} (h : e.record = some i) {name : String}
    (hname : name ≠ i.serviceName) : e.standingUnder name = none := by
  simp [standingUnder, h, Ne.symm hname]

/-- The answer to a purge is about the id and the name of the record. -/
theorem InStep.purged (h : e.InStep) (hkeyed : ∀ i ∈ e.record, i.serviceId = id) {r : Report}
    (hr : (e.purge id).1 = .ok r) :
    ∃ i, e.record = some i ∧ r.serviceId = id ∧ r.serviceName = i.serviceName := by
  simp only [purge] at hr
  cases hreport : e.report with
  | some old =>
    obtain ⟨i, hi, hdescribes⟩ := h.report_describes old hreport
    obtain rfl : old = r := by simpa [hreport] using hr
    exact ⟨i, hi, hdescribes.serviceId.trans (hkeyed i hi), hdescribes.serviceName⟩
  | none =>
    cases hrecord : e.record with
    | none => simp [hreport, hrecord] at hr
    | some i =>
      obtain rfl : Report.make i (e.standing.getD .initial) none = r := by
        simpa [hreport, hrecord] using hr
      exact ⟨i, rfl, hkeyed i hrecord, rfl⟩

/-- Where a purge fails there was no standing. -/
theorem InStep.standing_of_purge_error (h : e.InStep) {cause : Error}
    (hr : (e.purge id).1 = .error cause) : e.standing = none := by
  cases hrecord : e.record with
  | none => exact (h.eq_none hrecord).1
  | some i => cases hreport : e.report <;> simp [purge, hreport, hrecord] at hr

/-- All that a call changes of the gauges is what it writes under its id. -/
theorem InStep.shown_count (h : e.InStep) (t : Thresholds) (now : Timestamp) {c : Call}
    (hkeyed : ∀ i ∈ e.record, i.serviceId = c.subject) (m : Meters) (labels : Meter.Labels) :
    (e.count t now c m).shown labels = match e.written t now c with
      | some (name, s) => if labels = [c.subject, name] then .ofStanding s else m.shown labels
      | none => m.shown labels := by
  cases c with
  | register r =>
    simp only [count, written]
    split
    · exact m.shown_removeInstance labels r.serviceId r.serviceName
    · rfl
  | deregister subject =>
    simp only [count, written]
    cases hrecord : e.record with
    | none => rfl
    | some i =>
      rw [← hkeyed i hrecord]
      exact m.shown_removeInstance labels i.serviceId i.serviceName
  | updateMetadata subject pairs => rfl
  | purge subject =>
    simp only [count, written]
    cases hr : (e.purge subject).1 with
    | error cause => rfl
    | ok r =>
      obtain ⟨i, -, hid, -⟩ := h.purged hkeyed hr
      rw [← hid]
      exact m.shown_removeInstance labels r.serviceId r.serviceName
  | applyOutcome probed outcome =>
    simp only [count, countOutcome, written]
    cases hcurrent : e.record.filter Instance.isActive with
    | none =>
      exact (Meters.shown_recordDiscarded _ labels).trans (m.shown_recordProbe labels ..)
    | some current =>
      rw [← hkeyed current (Option.eq_some_of_filter_eq_some hcurrent)]
      cases hchange : ((e.standing.getD .initial).observe t now probed.protocol outcome).2 with
      | none =>
        dsimp only
        rw [Meters.shown_setInstance, Meters.shown_recordProbe, Option.map_some]
      | some change =>
        dsimp only
        rw [Meters.shown_recordTransition, Meters.shown_setInstance, Meters.shown_recordProbe,
          Option.map_some]

/-- What a call writes is what should be shown of its instance afterwards, unless it renames. -/
theorem InStep.standingUnder_perform (h : e.InStep) {c : Call} (hname : ¬ e.renames c)
    (hkeyed : ∀ i ∈ e.record, i.serviceId = c.subject) (name : String) :
    (e.perform t now c).2.standingUnder name = match e.written t now c with
      | some (written, s) => if name = written then s else e.standingUnder name
      | none => e.standingUnder name := by
  -- where a write takes a standing away, nothing was due under any other name
  have hgone {after : Entry} (hafter : after.standing = none) {written : String}
      (hrest : name ≠ written → e.standingUnder name = none) :
      after.standingUnder name = if name = written then none else e.standingUnder name := by
    rw [standingUnder_of_none hafter]
    split
    · rfl
    · rename_i hne
      exact (hrest hne).symm
  cases c with
  | register r =>
    simp only [Entry.perform, register, written]
    cases hcheck : r.check with
    | error cause => rfl
    | ok _ =>
      by_cases hleft : e.hasLeft
      · have hnone := standingUnder_of_none (h.standing_eq_none hleft) name
        simp only [Except.isOk, Except.toBool, hleft, and_self, if_true]
        exact hgone rfl fun _ => hnone
      · simp only [Except.isOk, Except.toBool, hleft, Bool.false_eq_true, and_false, if_false]
        cases hs : e.standing with
        | none => rw [standingUnder_of_none hs, standingUnder_of_none (by exact hs)]
        | some s =>
          -- an instance with a standing has a record, and it keeps its name
          have hactive := h.active_of_standing (by simp [hs])
          cases hrecord : e.record with
          | none => simp [isActive, hrecord] at hactive
          | some i =>
            have hsame : i.serviceName = r.serviceName := by
              simpa [renames, hcheck, hs, hrecord, Except.isOk, Except.toBool] using hname
            rw [standingUnder_eq hrecord, standingUnder_eq rfl, hsame]
            rfl
  | deregister subject =>
    simp only [Entry.perform, deregister, written]
    cases hrecord : e.record with
    | none => rfl
    | some i => exact hgone rfl fun hne => standingUnder_of_ne hrecord hne
  | updateMetadata subject pairs =>
    simp only [Entry.perform, updateMetadata, written]
    cases hrecord : e.record with
    | none => rfl
    | some i =>
      rw [standingUnder_eq hrecord, standingUnder_eq rfl]
      rfl
  | purge subject =>
    simp only [Entry.perform, written]
    cases hr : (e.purge subject).1 with
    | error cause =>
      have hnone := h.standing_of_purge_error hr
      exact (standingUnder_of_none rfl name).trans (standingUnder_of_none hnone name).symm
    | ok r =>
      obtain ⟨i, hrecord, -, hservice⟩ := h.purged hkeyed hr
      exact hgone rfl fun hne => standingUnder_of_ne hrecord (hservice ▸ hne)
  | applyOutcome probed outcome =>
    simp only [Entry.perform, applyOutcome, written]
    cases hcurrent : e.record.filter Instance.isActive with
    | none => rfl
    | some current =>
      have hrecord := Option.eq_some_of_filter_eq_some hcurrent
      rw [standingUnder_eq hrecord, standingUnder_eq rfl]
      by_cases hcase : current.serviceName = name
      · simp [hcase]
      · simp [hcase, Ne.symm hcase]

/-- A call that renames leaves the old name where it is. -/
theorem InStep.written_of_renames (h : e.InStep) (t : Thresholds) (now : Timestamp) {c : Call}
    (hname : e.renames c) :
    e.written t now c = none ∧ ∃ name, (e.standingUnder name).isSome ∧
      (e.perform t now c).2.standingUnder name = none := by
  cases c with
  | register r =>
    simp only [renames, Bool.and_eq_true] at hname
    obtain ⟨⟨hcheck, hs⟩, hother⟩ := hname
    have hleft : ¬ e.hasLeft := fun hl => by simp [h.standing_eq_none hl] at hs
    cases hrecord : e.record with
    | none => simp [hrecord] at hother
    | some i =>
      have hne : i.serviceName ≠ r.serviceName := by simpa [hrecord] using hother
      refine ⟨by simp [written, hleft], i.serviceName, ?_, ?_⟩
      · rwa [standingUnder_eq hrecord, if_pos rfl]
      · simp only [Entry.perform, register]
        cases hr : r.check with
        | error cause => simp [hr, Except.isOk, Except.toBool] at hcheck
        | ok _ =>
          simp only [hleft, Bool.false_eq_true, if_false]
          exact standingUnder_of_ne rfl hne
  | deregister subject => simp [renames] at hname
  | updateMetadata subject pairs => simp [renames] at hname
  | purge subject => simp [renames] at hname
  | applyOutcome probed outcome => simp [renames] at hname

end Entry

/-- A family shows a number of the standing under an id: there is one sample for the id if there is
a standing, under the name of the record and with this number, and no other. -/
def Shows (f : Fleet) (id : String) (g : Meter.Family Int64) (number : Standing → Nat) : Prop :=
  ∀ name v, ([id, name], v) ∈ g.entries ↔ ∃ i ∈ f.catalog.find? id, ∃ s ∈ f.standings.get? id,
    name = i.serviceName ∧ v.toInt = number s

/-- All three gauges show the standing under an id. -/
structure GaugesExact (f : Fleet) (m : Meters) (id : String) : Prop where
  status : f.Shows id m.instanceStatus (·.status.code)
  successes : f.Shows id m.successes (·.successes.toNat)
  failures : f.Shows id m.failures (·.failures.toNat)

/-- The call gives another name to the instance under an id while it has a standing. -/
def renames (f : Fleet) (id : String) (c : Call) : Bool :=
  c.subject = id && (f.entry id).renames c

/-- No call renames the instance under an id while it has a standing. -/
def keepsName (id : String) (f : Fleet) : List (Timestamp × Call) → Bool
  | [] => true
  | (now, c) :: rest => !f.renames id c && keepsName id (f.perform now c).2 rest

theorem keepsName_concat (id : String) (f : Fleet) (calls : List (Timestamp × Call))
    (call : Timestamp × Call) : f.keepsName id (calls ++ [call]) =
      (f.keepsName id calls && !(f.run calls).renames id call.2) := by
  induction calls generalizing f with
  | nil => simp [keepsName, run]
  | cons first rest ih => simp [keepsName, run, ih, Bool.and_assoc]

theorem toInt_gauge {n : Nat} (hn : n < 2 ^ 63) (v : Int64) : v = Meter.gauge n ↔ v.toInt = n := by
  rw [← Int64.toInt_inj, Meter.gauge, Int64.toInt_ofNat_of_lt hn]

variable {f : Fleet} {id : String}

theorem shows_iff (f : Fleet) (id : String) (g : Meter.Family Int64) (number : Standing → Nat)
    (hnumber : ∀ s, number s < 2 ^ 63) : f.Shows id g number ↔ ∀ name, g.get? [id, name] =
      ((f.entry id).standingUnder name).map fun s => Meter.gauge (number s) := by
  have hdue (name : String) (v : Int64) :
      (((f.entry id).standingUnder name).map fun s => Meter.gauge (number s)) = some v ↔
        ∃ i ∈ f.catalog.find? id, ∃ s ∈ f.standings.get? id,
          name = i.serviceName ∧ v.toInt = number s := by
    have hrecord : (f.entry id).record = f.catalog.find? id := rfl
    have hstanding : (f.entry id).standing = f.standings.get? id := rfl
    rw [Entry.standingUnder, hrecord, hstanding]
    cases f.catalog.find? id with
    | none => simp
    | some i =>
      cases f.standings.get? id with
      | none => simp
      | some s =>
        have hv := toInt_gauge (hnumber s) v
        by_cases hname : i.serviceName = name
        · simp [hname, ← hv, eq_comm]
        · simp [hname, Ne.symm hname]
  unfold Shows
  refine forall_congr' fun name => ?_
  rw [Option.ext_iff]
  exact forall_congr' fun v => by rw [Table.get?_eq_some_iff_mem, hdue]

theorem gaugesExact_iff {m : Meters} : f.GaugesExact m id ↔
    ∀ name, m.shown [id, name] = .ofStanding ((f.entry id).standingUnder name) := by
  have hstatus := shows_iff f id m.instanceStatus (fun s => s.status.code)
    fun s => by cases s.status <;> decide
  have hsuccesses := shows_iff f id m.successes (fun s => s.successes.toNat)
    fun s => Nat.lt_trans s.successes.toNat_lt (by decide)
  have hfailures := shows_iff f id m.failures (fun s => s.failures.toNat)
    fun s => Nat.lt_trans s.failures.toNat_lt (by decide)
  constructor
  · intro h name
    simp only [Meters.shown, Meter.Shown.ofStanding, Meter.Shown.mk.injEq]
    exact ⟨hstatus.mp h.status name, hsuccesses.mp h.successes name, hfailures.mp h.failures name⟩
  · intro h
    simp only [Meters.shown, Meter.Shown.ofStanding, Meter.Shown.mk.injEq] at h
    exact ⟨hstatus.mpr fun name => (h name).1, hsuccesses.mpr fun name => (h name).2.1,
      hfailures.mpr fun name => (h name).2.2⟩

/-- The meters after a call. -/
theorem perform_meters_some (hf : f.catalog.Keyed) {m : Meters} (hm : f.meters = some m)
    (now : Timestamp) (c : Call) : (f.perform now c).2.meters =
      some ((f.entry c.subject).count f.standings.thresholds now c m) := by
  rw [perform_meters hf now c, hm, Option.map_some]

/-- Exact gauges stay exact with every call but one that renames, and with that they never do. -/
theorem gaugesExact_perform_iff (hf : f.catalog.Keyed) (hstep : ∀ id, (f.entry id).InStep)
    {m : Meters} (hexact : f.GaugesExact m id) (now : Timestamp) (c : Call) :
    (f.perform now c).2.GaugesExact ((f.entry c.subject).count f.standings.thresholds now c m) id ↔
      ¬ f.renames id c := by
  rw [gaugesExact_iff] at hexact ⊢
  have hshown := (hstep c.subject).shown_count f.standings.thresholds now (hf c.subject) m
  by_cases hid : c.subject = id
  · subst id
    rw [entry_perform_self now hf c]
    have hsame : f.renames c.subject c = (f.entry c.subject).renames c := by simp [renames]
    rw [hsame]
    constructor
    · intro h hname
      obtain ⟨hwritten, name, hold, hnew⟩ :=
        (hstep c.subject).written_of_renames f.standings.thresholds now hname
      have hstale := h name
      rw [hshown, hwritten, hexact, hnew] at hstale
      rw [Meter.Shown.ofStanding_eq_none_iff.mp hstale] at hold
      exact absurd hold (by simp)
    · intro hname name
      rw [hshown, (hstep c.subject).standingUnder_perform hname (hf c.subject)]
      split
      · simp only [List.cons.injEq, and_true, true_and]
        split
        · rfl
        · exact hexact name
      · exact hexact name
  · have hsame : f.renames id c = false := by simp [renames, hid]
    rw [entry_perform_of_ne now id hf (Ne.symm hid), hsame]
    refine ⟨fun _ => Bool.false_ne_true, fun _ name => ?_⟩
    rw [hshown]
    split
    · rw [if_neg fun h => hid (List.cons.inj h).1.symm]
      exact hexact name
    · exact hexact name

/-- After every run all samples have an id and a name, and they are exact under every id that was
not renamed. -/
theorem gauges_run (t : Thresholds) (calls : List (Timestamp × Call)) :
    ∃ m, ((empty t true).run calls).meters = some m ∧
      (∀ labels, (∀ id name, labels ≠ [id, name]) → m.shown labels = .ofStanding none) ∧
      ∀ id, (empty t true).keepsName id calls → ((empty t true).run calls).GaugesExact m id := by
  induction calls using List.reverseRecOn with
  | nil =>
    refine ⟨.initial, rfl, fun labels _ => Meters.shown_initial labels,
      fun id _ => gaugesExact_iff.mpr fun name => ?_⟩
    rw [Entry.standingUnder_of_none rfl, Meters.shown_initial]
  | append_singleton calls call ih =>
    obtain ⟨m, hm, hpairs, hexact⟩ := ih
    have hkeyed := keyed_run t true calls
    have hstep := entry_inStep_run t true calls
    rw [run_concat]
    refine ⟨_, perform_meters_some hkeyed hm call.1 call.2, fun labels hlabels => ?_,
      fun id hname => ?_⟩
    · rw [(hstep call.2.subject).shown_count _ call.1 (hkeyed call.2.subject)]
      split
      · rw [if_neg (hlabels _ _), hpairs labels hlabels]
      · exact hpairs labels hlabels
    · rw [keepsName_concat, Bool.and_eq_true, Bool.not_eq_true'] at hname
      exact (gaugesExact_perform_iff hkeyed hstep (hexact id hname.1) call.1 call.2).mpr
        (by simp [hname.2])

/-- Gauges are exact until an instance is renamed. After every run each family of gauges holds,
under an id that was not given another name while it had a standing, one sample if there is a
standing, with the name of the record and the number that the standing has, and no other; in
particular none once the instance has left or its report was purged. Each next call keeps this up
unless it gives the instance another name while it has a standing; and with that it ends. -/
theorem gauges_are_exact_until_renamed (t : Thresholds) (calls : List (Timestamp × Call)) :
    let f := (empty t true).run calls
    ∃ m, f.meters = some m ∧
      (∀ labels v, (labels, v) ∈ m.instanceStatus.entries ∨ (labels, v) ∈ m.successes.entries ∨
        (labels, v) ∈ m.failures.entries → ∃ id name, labels = [id, name]) ∧
      ∀ id, (empty t true).keepsName id calls → f.GaugesExact m id ∧
        ∀ now c, ∃ m', (f.perform now c).2.meters = some m' ∧
          ((f.perform now c).2.GaugesExact m' id ↔ ¬ f.renames id c) := by
  intro f
  obtain ⟨m, hm, hpairs, hexact⟩ := gauges_run t calls
  refine ⟨m, hm, fun labels v hmem => ?_, fun id hname => ⟨hexact id hname, fun now c => ?_⟩⟩
  · by_contra hother
    push Not at hother
    have hnone := hpairs labels hother
    simp only [Meters.shown, Meter.Shown.ofStanding, Meter.Shown.mk.injEq, Option.map_none] at hnone
    simp only [← Table.get?_eq_some_iff_mem] at hmem
    simp [hnone] at hmem
  · exact ⟨_, perform_meters_some (keyed_run t true calls) hm now c, gaugesExact_perform_iff
      (keyed_run t true calls) (entry_inStep_run t true calls) (hexact id hname) now c⟩

/-- An instance may take another name while it is away. -/
theorem gauges_are_exact_after_return_renamed :
    let r : Registration := ⟨"i1", "orders", "10.0.0.5", 8080, .http, .empty⟩
    let back : Registration := { r with serviceName := "billing" }
    let calls : List (Timestamp × Call) := [(⟨0⟩, .register r),
      (⟨1⟩, .applyOutcome (.ofRegistration r ⟨0⟩) (.timedOut ⟨0⟩)), (⟨2⟩, .deregister "i1"),
      (⟨3⟩, .register back), (⟨4⟩, .applyOutcome (.ofRegistration back ⟨0⟩) (.timedOut ⟨0⟩))]
    (empty ⟨1, 1⟩ true).keepsName "i1" calls ∧
    ∃ m, ((empty ⟨1, 1⟩ true).run calls).meters = some m ∧
      ((empty ⟨1, 1⟩ true).run calls).GaugesExact m "i1" := by
  intro r back calls
  have hname : (empty ⟨1, 1⟩ true).keepsName "i1" calls := by decide
  obtain ⟨m, hm, -, hexact⟩ := gauges_are_exact_until_renamed ⟨1, 1⟩ calls
  exact ⟨hname, m, hm, (hexact "i1" hname).1⟩

/-- A gauge can outlive its instance: the instance took another name while it had a standing, and
when it left only the gauges under the new name were looked for. -/
theorem stale_gauge_survives_departure :
    let r : Registration := ⟨"i1", "orders", "10.0.0.5", 8080, .http, .empty⟩
    let f := (empty ⟨1, 1⟩ true).run [(⟨0⟩, .register r),
      (⟨1⟩, .applyOutcome (.ofRegistration r ⟨0⟩) (.timedOut ⟨0⟩)),
      (⟨2⟩, .register { r with serviceName := "billing" }), (⟨3⟩, .deregister "i1")]
    f.standings.get? "i1" = none ∧
      ∃ m, f.meters = some m ∧ (["i1", "orders"], 2) ∈ m.instanceStatus.entries := by
  intro r f
  have hshown : f.meters.map (fun m => m.instanceStatus.get? ["i1", "orders"]) = some (some 2) := by
    decide
  obtain ⟨m, hm, hvalue⟩ := Option.map_eq_some_iff.mp hshown
  exact ⟨by decide, m, hm, Table.get?_eq_some_iff_mem.mp hvalue⟩

end ServiceHealth.Fleet
