import ServiceHealth.Proofs.Fleet.InStep
import ServiceHealth.Proofs.Metering

/-!
# The stores as a whole

Tables that hold the same under every id are equal, so what is known of every entry is known of the
stores as a whole. A call that fails leaves its entry as it is; with that it leaves all stores.
-/
namespace ServiceHealth.Fleet

/-- The same records, standings and reports. The meters may differ. -/
structure SameStores (f g : Fleet) : Prop where
  catalog : f.catalog = g.catalog
  standings : f.standings = g.standings
  board : f.board = g.board

theorem sameStores_of_entry {f g : Fleet} (ht : f.standings.thresholds = g.standings.thresholds)
    (h : ∀ id, f.entry id = g.entry id) : f.SameStores g := by
  have hrecords : f.catalog.records = g.catalog.records :=
    Table.ext_get? fun id => congrArg Entry.record (h id)
  have hstandings : f.standings.table = g.standings.table :=
    Table.ext_get? fun id => congrArg Entry.standing (h id)
  have hreports : f.board.reports = g.board.reports :=
    Table.ext_get? fun id => congrArg Entry.report (h id)
  constructor
  · exact congrArg Catalog.mk hrecords
  · show Standings.mk f.standings.thresholds f.standings.table = _
    rw [ht, hstandings]
  · exact congrArg Board.mk hreports

theorem SameStores.eq {f g : Fleet} (h : f.SameStores g) (hm : f.meters = g.meters) : f = g := by
  obtain ⟨hcatalog, hstandings, hboard⟩ := h
  cases f
  cases g
  simp_all

theorem SameStores.entry {f g : Fleet} (h : f.SameStores g) (id : String) :
    f.entry id = g.entry id := by
  rw [Fleet.entry, h.catalog, h.standings, h.board]
  rfl

theorem sameStores_meter (f : Fleet) (change : Meters → Meters) : (f.meter change).SameStores f :=
  ⟨rfl, rfl, rfl⟩

/-- The meters have no say in what a call does to the stores. -/
theorem SameStores.perform {f g : Fleet} (h : f.SameStores g) (hf : f.catalog.Keyed)
    (now : Timestamp) (c : Call) : (f.perform now c).2.SameStores (g.perform now c).2 := by
  have hg : g.catalog.Keyed := h.catalog ▸ hf
  refine sameStores_of_entry ?_ fun id => ?_
  · rw [thresholds_perform, thresholds_perform, h.standings]
  · rw [(perform_entry now id hf c).2, (perform_entry now id hg c).2, h.entry, h.standings]

/-- Records are stored under their ids, and the stores agree under every id. -/
structure Sound (f : Fleet) : Prop where
  keyed : f.catalog.Keyed
  inStep : ∀ id, (f.entry id).InStep

theorem sound_run (t : Thresholds) (metered : Bool) (calls : List (Timestamp × Call)) :
    ((empty t metered).run calls).Sound where
  keyed := keyed_run t metered calls
  inStep := entry_inStep_run t metered calls

variable {f : Fleet}

theorem Sound.meter (h : f.Sound) (change : Meters → Meters) : (f.meter change).Sound :=
  ⟨h.keyed, h.inStep⟩

theorem Sound.perform (h : f.Sound) (now : Timestamp) (c : Call) : (f.perform now c).2.Sound where
  keyed := keyed_perform h.keyed now c
  inStep id := by
    rw [(perform_entry now id h.keyed c).2]
    split
    · subst id
      exact (h.inStep c.subject).perform (h.keyed c.subject)
    · exact h.inStep id

def Answer.error? : Answer → Option Error
  | .record (.error e) => some e
  | .report (.error e) => some e
  | _ => none

/-- The call failed, or the outcome was discarded. -/
def Answer.isFailure : Answer → Bool
  | .record result => !result.isOk
  | .report result => !result.isOk
  | .applied result => result.isNone

theorem Answer.isFailure_of_error? {a : Answer} {e : Error} (h : a.error? = some e) :
    a.isFailure := by
  unfold error? at h
  split at h
  · rfl
  · rfl
  · contradiction

/-- A call that fails leaves the entry that it is about. The purge has dropped standing and report
before it knows that it fails, but then there was neither. -/
theorem Entry.InStep.perform_of_failure {t : Thresholds} {now : Timestamp} {e : Entry} {c : Call}
    (h : e.InStep) (hfail : (e.perform t now c).1.isFailure) : (e.perform t now c).2 = e := by
  cases c with
  | register r =>
    simp only [Entry.perform, Entry.register] at hfail ⊢
    split
    · rfl
    · rename_i hcheck
      rw [hcheck] at hfail
      contradiction
  | deregister id =>
    simp only [Entry.perform, Entry.deregister] at hfail ⊢
    split
    · rfl
    · rename_i i hi
      rw [hi] at hfail
      contradiction
  | updateMetadata id pairs =>
    simp only [Entry.perform, Entry.updateMetadata] at hfail ⊢
    split
    · rfl
    · rename_i i hi
      rw [hi] at hfail
      contradiction
  | purge id =>
    simp only [Entry.perform, Entry.purge] at hfail ⊢
    cases hrecord : e.record with
    | none =>
      obtain ⟨hs, hr⟩ := h.eq_none hrecord
      cases e
      simp_all
    | some i => cases hr : e.report <;> rw [hrecord, hr] at hfail <;> contradiction
  | applyOutcome probed outcome =>
    simp only [Entry.perform, Entry.applyOutcome] at hfail ⊢
    split
    · rfl
    · rename_i current hcurrent
      rw [hcurrent] at hfail
      contradiction

/-- A call that reports a failure is not counted. -/
theorem Entry.count_of_error {t : Thresholds} {now : Timestamp} {e : Entry} {c : Call}
    {cause : Error} (herror : (e.perform t now c).1.error? = some cause) :
    e.count t now c = id := by
  cases c with
  | register r =>
    cases hcheck : r.check with
    | error fault => simp [count, hcheck, Except.isOk, Except.toBool]
    | ok _ => simp [Entry.perform, Entry.register, hcheck, Answer.error?] at herror
  | deregister subject =>
    cases hrecord : e.record with
    | none => simp only [count, hrecord]
    | some i => simp [Entry.perform, Entry.deregister, hrecord, Answer.error?] at herror
  | updateMetadata subject pairs => rfl
  | purge subject =>
    cases hr : (e.purge subject).1 with
    | error fault => simp only [count, hr]
    | ok r => simp [Entry.perform, hr, Answer.error?] at herror
  | applyOutcome probed outcome => simp [Entry.perform, Answer.error?] at herror

theorem Sound.perform_of_failure (h : f.Sound) {now : Timestamp} {c : Call}
    (hfail : (f.perform now c).1.isFailure) : (f.perform now c).2.SameStores f := by
  refine sameStores_of_entry (thresholds_perform f now c) fun id => ?_
  obtain ⟨hanswer, hentry⟩ := perform_entry now id h.keyed c
  rw [hanswer] at hfail
  rw [hentry]
  split
  · subst id
    exact (h.inStep c.subject).perform_of_failure hfail
  · rfl

/-- A call that reports a failure changes nothing at all. -/
theorem Sound.perform_of_error (h : f.Sound) {now : Timestamp} {c : Call} {e : Error}
    (herror : (f.perform now c).1.error? = some e) : (f.perform now c).2 = f := by
  refine (h.perform_of_failure (Answer.isFailure_of_error? herror)).eq ?_
  rw [(perform_entry now c.subject h.keyed c).1] at herror
  rw [perform_meters h.keyed, Entry.count_of_error herror, Option.map_id_apply]

end ServiceHealth.Fleet
