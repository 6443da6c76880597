import Mathlib.Data.List.Induction
import ServiceHealth.Fleet.Basic
import ServiceHealth.Proofs.Lookup

/-!
# The fleet under one id

Catalog, standings and board are three tables, but a call touches them under one id only. What is
held under that id moves by a small machine of its own, which gives the same answers; under every
other id nothing moves. Laws of whole runs are proved of this machine.
-/
namespace ServiceHealth.Fleet

/-- What the fleet holds under one id. -/
structure Entry where
  record : Option Instance
  standing : Option Standing
  report : Option Report
  deriving DecidableEq

/-- The three tables, read under one id. -/
def entry (f : Fleet) (id : String) : Entry :=
  ⟨f.catalog.find? id, f.standings.get? id, f.board.find? id⟩

def Call.subject : Call → String
  | .register r => r.serviceId
  | .deregister id => id
  | .updateMetadata id _ => id
  | .purge id => id
  | .applyOutcome probed _ => probed.serviceId

namespace Entry

def hasLeft (e : Entry) : Bool := e.record.any fun i => !i.isActive

def isActive (e : Entry) : Bool := e.record.any Instance.isActive

/-- A new record with the same health. -/
def describe (e : Entry) (i : Instance) : Entry :=
  ⟨some i, e.standing, e.report.map (·.describe i)⟩

/-- Registers an instance; one that had left comes back without standing and report. -/
def register (now : Timestamp) (r : Registration) (e : Entry) : Except Error Instance × Entry :=
  match r.check with
  | .error cause => (.error cause, e)
  | .ok () =>
      let i := Instance.ofRegistration r ((e.record.map (·.registeredAt)).getD now)
      (.ok i, if e.hasLeft then ⟨some i, none, none⟩ else e.describe i)

/-- Marks the instance as having left and drops its standing. -/
def deregister (now : Timestamp) (id : String) (e : Entry) : Except Error Instance × Entry :=
  match e.record with
  | none => (.error (.notFound .record id), e)
  | some i =>
      let i := { i with deregisteredAt := some (i.deregisteredAt.getD now) }
      (.ok i, ⟨some i, none, e.report⟩)

def updateMetadata (id : String) (pairs : List (String × String)) (e : Entry) :
    Except Error Instance × Entry :=
  match e.record with
  | none => (.error (.notFound .record id), e)
  | some i =>
      let i := { i with metadata := i.metadata.merge pairs }
      (.ok i, e.describe i)

/-- Drops standing and report, and a record that says that the instance has left. -/
def purge (id : String) (e : Entry) : Except Error Report × Entry :=
  let report := e.report.or (e.record.map fun i => .make i (e.standing.getD .initial) none)
  (match report with
    | some r => .ok r
    | none => .error (.notFound .report id),
    ⟨e.record.filter Instance.isActive, none, none⟩)

/-- Takes an outcome into account if the instance is active. -/
def applyOutcome (t : Thresholds) (now : Timestamp) (probed : Instance) (outcome : Probe.Outcome)
    (e : Entry) : Option Applied × Entry :=
  match e.record.filter Instance.isActive with
  | none => (none, e)
  | some current =>
      let next := (e.standing.getD .initial).observe t now probed.protocol outcome
      let report := Report.make current next.1 (some outcome)
      (some ⟨report, next.2⟩, ⟨some current, some next.1, some report⟩)

def perform (t : Thresholds) (now : Timestamp) (e : Entry) : Call → Answer × Entry
  | .register r => ((.record (e.register now r).1), (e.register now r).2)
  | .deregister id => ((.record (e.deregister now id).1), (e.deregister now id).2)
  | .updateMetadata id pairs =>
      ((.record (e.updateMetadata id pairs).1), (e.updateMetadata id pairs).2)
  | .purge id => ((.report (e.purge id).1), (e.purge id).2)
  | .applyOutcome probed outcome =>
      ((.applied (e.applyOutcome t now probed outcome).1), (e.applyOutcome t now probed outcome).2)

end Entry

variable (f : Fleet) (now : Timestamp) (id : String)

@[simp] theorem catalog_meter (change : Meters → Meters) : (f.meter change).catalog = f.catalog :=
  rfl

@[simp] theorem standings_meter (change : Meters → Meters) :
    (f.meter change).standings = f.standings := rfl

@[simp] theorem board_meter (change : Meters → Meters) : (f.meter change).board = f.board := rfl

@[simp] theorem entry_meter (change : Meters → Meters) : (f.meter change).entry id = f.entry id :=
  rfl

theorem entry_put (i : Instance) : { f with catalog := f.catalog.put i }.entry id =
    if id = i.serviceId then { f.entry id with record := some i } else f.entry id := by
  simp only [entry, Catalog.find?_put]
  split <;> rfl

theorem entry_forgetHealth (i : Instance) : (f.forgetHealth i).entry id =
    if id = i.serviceId then ⟨f.catalog.find? id, none, none⟩ else f.entry id := by
  rw [forgetHealth, entry_meter]
  simp only [entry, Standings.get?_remove, Board.find?_remove]
  split <;> rfl

theorem entry_refresh (i : Instance) : (f.refresh i).entry id =
    if id = i.serviceId then { f.entry id with report := (f.entry id).report.map (·.describe i) }
    else f.entry id := by
  simp only [refresh, entry, Board.find?_refresh]
  split <;> rfl

/-- A step that leaves the entry it is about as it is leaves all of them. -/
theorem entry_of_unmoved (step : Entry → Entry) {subject : String}
    (h : step (f.entry subject) = f.entry subject) :
    f.entry id = if id = subject then step (f.entry id) else f.entry id := by
  split
  · subst id
    exact h.symm
  · rfl

theorem isRevival_eq_hasLeft (i : Instance) :
    Registered.isRevival ⟨i, f.catalog.find? id⟩ = (f.entry id).hasLeft := by
  simp only [Registered.isRevival, Entry.hasLeft, entry]
  cases f.catalog.find? id <;> rfl

theorem register_entry (r : Registration) :
    (f.register now r).1 = ((f.entry r.serviceId).register now r).1 ∧
    (f.register now r).2.entry id =
      if id = r.serviceId then ((f.entry id).register now r).2 else f.entry id := by
  simp only [register, Entry.register, Catalog.register_eq]
  cases r.check with
  | error cause => simp
  | ok _ =>
    refine ⟨rfl, ?_⟩
    have hserved (since : Timestamp) : (Instance.ofRegistration r since).serviceId = r.serviceId :=
      rfl
    simp only [isRevival_eq_hasLeft]
    by_cases hid : id = r.serviceId
    · subst id
      split
      · simp only [entry_forgetHealth, hserved, if_true, Catalog.find?_put]
        rfl
      · simp only [entry_refresh, entry_put, hserved, if_true]
        rfl
    · split
      · rw [entry_forgetHealth, hserved, if_neg hid, entry_put, hserved, if_neg hid]
      · rw [entry_refresh, hserved, if_neg hid, entry_put, hserved, if_neg hid]

/-- Whichever record the purge returns or leaves is the one that was there. -/
theorem purged_or_kept (c : Catalog) (subject : String) :
    (c.purge subject).1.or ((c.purge subject).2.find? subject) = c.find? subject := by
  rw [Catalog.purge_fst, Catalog.find?_purge, if_pos rfl]
  cases c.find? subject with
  | none => rfl
  | some i => cases hi : i.isActive <;> simp [Option.filter, hi]

theorem purge_entry (subject : String) :
    (f.purge subject).1 = ((f.entry subject).purge subject).1 ∧
    (f.purge subject).2.entry id =
      if id = subject then ((f.entry id).purge subject).2 else f.entry id := by
  have hentry (meters : Option Meters) : Fleet.entry ⟨(f.catalog.purge subject).2,
      f.standings.remove subject, (f.board.purge subject).2, meters⟩ id =
        if id = subject then ((f.entry id).purge subject).2 else f.entry id := by
    simp only [entry, Board.purge_eq, Catalog.find?_purge, Standings.get?_remove,
      Board.find?_remove]
    split
    · subst id
      rfl
    · rfl
  cases hb : f.board.find? subject with
  | some r =>
    have hcached : (f.board.purge subject).1 = .ok r := by rw [Board.purge_eq, hb]
    simp only [purge, hcached, entry_meter, hentry]
    simp [Entry.purge, entry, hb]
  | none =>
    have hcached : (f.board.purge subject).1 = .error (.notFound .report subject) := by
      rw [Board.purge_eq, hb]
    simp only [purge, hcached, purged_or_kept]
    cases hc : f.catalog.find? subject with
    | none =>
      simp only [Option.map_none, hentry]
      simp [Entry.purge, entry, hb, hc]
    | some i =>
      simp only [Option.map_some, entry_meter, hentry]
      simp [Entry.purge, entry, hb, hc]

variable {f}

theorem deregister_entry (hf : f.catalog.Keyed) (subject : String) :
    (f.deregister now subject).1 = ((f.entry subject).deregister now subject).1 ∧
    (f.deregister now subject).2.entry id =
      if id = subject then ((f.entry id).deregister now subject).2 else f.entry id := by
  cases h : f.catalog.find? subject with
  | none =>
    have hentry : (f.entry subject).deregister now subject =
        (.error (.notFound .record subject), f.entry subject) := by
      simp [Entry.deregister, entry, h]
    simp only [deregister, Catalog.deregister_eq, h]
    exact ⟨by rw [hentry], entry_of_unmoved f id (fun e => (e.deregister now subject).2)
      (congrArg Prod.snd hentry)⟩
  | some i =>
    obtain rfl : i.serviceId = subject := hf subject i h
    simp only [deregister, Catalog.deregister_eq, h, entry_meter]
    refine ⟨by simp [Entry.deregister, entry, h], ?_⟩
    simp only [entry, Catalog.find?_put, Standings.get?_remove]
    split
    · subst id
      simp [Entry.deregister, h]
    · rfl

theorem updateMetadata_entry (hf : f.catalog.Keyed) (subject : String)
    (pairs : List (String × String)) :
    (f.updateMetadata subject pairs).1 = ((f.entry subject).updateMetadata subject pairs).1 ∧
    (f.updateMetadata subject pairs).2.entry id =
      if id = subject then ((f.entry id).updateMetadata subject pairs).2 else f.entry id := by
  cases h : f.catalog.find? subject with
  | none =>
    have hentry : (f.entry subject).updateMetadata subject pairs =
        (.error (.notFound .record subject), f.entry subject) := by
      simp [Entry.updateMetadata, entry, h]
    simp only [updateMetadata, Catalog.updateMetadata_eq, h]
    exact ⟨by rw [hentry], entry_of_unmoved f id (fun e => (e.updateMetadata subject pairs).2)
      (congrArg Prod.snd hentry)⟩
  | some i =>
    obtain rfl : i.serviceId = subject := hf subject i h
    simp only [updateMetadata, Catalog.updateMetadata_eq, h, entry_refresh, entry_put]
    refine ⟨by simp [Entry.updateMetadata, entry, h], ?_⟩
    split
    · subst id
      simp [Entry.updateMetadata, Entry.describe, entry, h]
    · rfl

theorem applyOutcome_entry (hf : f.catalog.Keyed) (probed : Instance) (outcome : Probe.Outcome) :
    (f.applyOutcome now probed outcome).1 =
      ((f.entry probed.serviceId).applyOutcome f.standings.thresholds now probed outcome).1 ∧
    (f.applyOutcome now probed outcome).2.entry id =
      if id = probed.serviceId then
        ((f.entry id).applyOutcome f.standings.thresholds now probed outcome).2
      else f.entry id := by
  cases h : (f.catalog.find? probed.serviceId).filter Instance.isActive with
  | none =>
    have hentry : (f.entry probed.serviceId).applyOutcome f.standings.thresholds now probed
        outcome = (none, f.entry probed.serviceId) := by
      simp [Entry.applyOutcome, entry, h]
    simp only [applyOutcome, catalog_meter, h, entry_meter]
    exact ⟨by rw [hentry], entry_of_unmoved f id
      (fun e => (e.applyOutcome f.standings.thresholds now probed outcome).2)
      (congrArg Prod.snd hentry)⟩
  | some current =>
    obtain ⟨hfind, hactive⟩ := Option.filter_eq_some_iff.mp h
    have hi : current.serviceId = probed.serviceId := hf _ current hfind
    simp only [applyOutcome, catalog_meter, standings_meter, board_meter, h]
    refine ⟨?_, ?_⟩
    · simp only [Entry.applyOutcome, entry, h, Standings.record_fst, hi]
    -- the transition is only counted, so both cases leave the same entry
    · cases (f.standings.record now current.serviceId probed.protocol outcome).1.2
      all_goals
        simp only [entry_meter]
        simp only [entry, Standings.get?_record, Board.find?_post, Report.make_serviceId, hi]
        split
        · subst id
          simp only [Entry.applyOutcome, h, Standings.record_fst]
          rw [hfind]
        · rfl

/-- A call moves the entry that it is about, which also decides on the answer, and no other. -/
theorem perform_entry (hf : f.catalog.Keyed) (c : Call) :
    (f.perform now c).1 = ((f.entry c.subject).perform f.standings.thresholds now c).1 ∧
    (f.perform now c).2.entry id =
      if id = c.subject then ((f.entry id).perform f.standings.thresholds now c).2
      else f.entry id := by
  cases c with
  | register r =>
    obtain ⟨hanswer, hentry⟩ := register_entry f now id r
    exact ⟨congrArg Answer.record hanswer, hentry⟩
  | deregister subject =>
    obtain ⟨hanswer, hentry⟩ := deregister_entry now id hf subject
    exact ⟨congrArg Answer.record hanswer, hentry⟩
  | updateMetadata subject pairs =>
    obtain ⟨hanswer, hentry⟩ := updateMetadata_entry id hf subject pairs
    exact ⟨congrArg Answer.record hanswer, hentry⟩
  | purge subject =>
    obtain ⟨hanswer, hentry⟩ := purge_entry f id subject
    exact ⟨congrArg Answer.report hanswer, hentry⟩
  | applyOutcome probed outcome =>
    obtain ⟨hanswer, hentry⟩ := applyOutcome_entry now id hf probed outcome
    exact ⟨congrArg Answer.applied hanswer, hentry⟩

theorem entry_perform_self (hf : f.catalog.Keyed) (c : Call) : (f.perform now c).2.entry c.subject =
    ((f.entry c.subject).perform f.standings.thresholds now c).2 := by
  rw [(perform_entry now c.subject hf c).2, if_pos rfl]

theorem entry_perform_of_ne (hf : f.catalog.Keyed) {c : Call} (hid : id ≠ c.subject) :
    (f.perform now c).2.entry id = f.entry id := by
  rw [(perform_entry now id hf c).2, if_neg hid]

theorem thresholds_perform (f : Fleet) (now : Timestamp) (c : Call) :
    (f.perform now c).2.standings.thresholds = f.standings.thresholds := by
  cases c with
  | register r =>
    simp only [perform, register]
    split
    · split <;> rfl
    · rfl
  | deregister subject =>
    simp only [perform, deregister]
    split <;> rfl
  | updateMetadata subject pairs =>
    simp only [perform, updateMetadata]
    split <;> rfl
  | purge subject =>
    simp only [perform, purge]
    split <;> rfl
  | applyOutcome probed outcome =>
    simp only [perform, applyOutcome]
    split
    · rfl
    · dsimp only
      split <;> rfl

/-- A call leaves the record under the id that it is about. -/
theorem Entry.perform_keyed {t : Thresholds} {now : Timestamp} {e : Entry} {c : Call}
    (he : ∀ i ∈ e.record, i.serviceId = c.subject) :
    ∀ i ∈ (e.perform t now c).2.record, i.serviceId = c.subject := by
  cases c with
  | register r =>
    simp only [perform, register]
    split
    · exact he
    · split <;> simp [describe, Instance.ofRegistration, Call.subject]
  | deregister subject =>
    simp only [perform, deregister]
    split
    · exact he
    · rename_i i hi
      simpa using he i hi
  | updateMetadata subject pairs =>
    simp only [perform, updateMetadata]
    split
    · exact he
    · rename_i i hi
      simpa [describe] using he i hi
  | purge subject => exact fun i hi => he i (Option.eq_some_of_filter_eq_some hi)
  | applyOutcome probed outcome =>
    simp only [perform, applyOutcome]
    split
    · exact he
    · rename_i current hcurrent
      simpa using he current (Option.eq_some_of_filter_eq_some hcurrent)

theorem keyed_perform (hf : f.catalog.Keyed) (now : Timestamp) (c : Call) :
    (f.perform now c).2.catalog.Keyed := by
  intro id i hi
  have hentry := (perform_entry now id hf c).2
  have hrecord : i ∈ ((f.perform now c).2.entry id).record := hi
  rw [hentry] at hrecord
  split at hrecord
  · subst id
    exact Entry.perform_keyed (hf c.subject) i hrecord
  · exact hf id i hrecord

theorem run_append (f : Fleet) (first second : List (Timestamp × Call)) :
    f.run (first ++ second) = (f.run first).run second := by
  induction first generalizing f with
  | nil => rfl
  | cons call rest ih => exact ih _

@[simp] theorem run_concat (f : Fleet) (calls : List (Timestamp × Call)) (call : Timestamp × Call) :
    f.run (calls ++ [call]) = ((f.run calls).perform call.1 call.2).2 := run_append f calls [call]

theorem keyed_run (t : Thresholds) (metered : Bool) (calls : List (Timestamp × Call)) :
    ((empty t metered).run calls).catalog.Keyed := by
  induction calls using List.reverseRecOn with
  | nil => exact fun _ _ h => by contradiction
  | append_singleton calls call ih =>
    rw [run_concat]
    exact keyed_perform ih call.1 call.2

theorem thresholds_run (t : Thresholds) (metered : Bool) (calls : List (Timestamp × Call)) :
    ((empty t metered).run calls).standings.thresholds = t := by
  induction calls using List.reverseRecOn with
  | nil => rfl
  | append_singleton calls call ih =>
    rw [run_concat, thresholds_perform, ih]

/-- What holds of the empty entry and is kept by every call about it holds after every run. -/
theorem entry_run_induction {P : String → Entry → Prop} {t : Thresholds}
    (start : ∀ id, P id ⟨none, none, none⟩)
    (step : ∀ now c e, (∀ i ∈ e.record, i.serviceId = c.subject) → P c.subject e →
      P c.subject (e.perform t now c).2)
    (metered : Bool) (calls : List (Timestamp × Call)) (id : String) :
    P id (((empty t metered).run calls).entry id) := by
  induction calls using List.reverseRecOn with
  | nil => exact start id
  | append_singleton calls call ih =>
    have hkeyed := keyed_run t metered calls
    rw [run_concat, (perform_entry call.1 id hkeyed call.2).2, thresholds_run]
    split
    · subst id
      exact step call.1 call.2 _ (hkeyed call.2.subject) ih
    · exact ih

end ServiceHealth.Fleet
