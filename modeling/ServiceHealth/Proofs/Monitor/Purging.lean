import ServiceHealth.Proofs.Fleet.History
import ServiceHealth.Proofs.Monitor.Commute

/-!
# A purged instance starts over

A purge takes from three stores before it knows whether it succeeds, and makes up a report from what
it took where there was none. Since the stores are in step, the record alone decides. Afterwards an
active instance is held as one that was never probed, and stays so until an outcome is applied to
it.
-/
namespace ServiceHealth

/-- The report on an instance that was never probed. -/
def Report.unprobed (i : Instance) : Report where
  serviceId := i.serviceId
  serviceName := i.serviceName
  address := i.address
  port := i.port
  status := .unknown
  lastProbe := none
  lastProbeType := none
  message := none
  metadata := i.metadata
  failures := 0
  successes := 0
  latencyMs := none

theorem Report.make_initial (i : Instance) : make i .initial none = unprobed i := rfl

namespace Fleet

namespace Entry

variable {e : Entry}

/-- Where there is no report there is no standing either. -/
theorem InStep.standing_of_unreported (h : e.InStep) (hreport : e.report = none) :
    e.standing = none := by
  by_contra hs
  have hsome : e.standing.isSome := Option.isSome_iff_ne_none.mpr hs
  have hreported := (h.standing_iff_report (h.active_of_standing hsome)).mp hsome
  simp [hreport] at hreported

/-- An active instance without a standing is one that was never probed. -/
theorem InStep.eq_unprobed (h : e.InStep) (hstanding : e.standing = none) {i : Instance}
    (hi : i ∈ e.record) (hactive : i.isActive) : e = ⟨some i, none, none⟩ := by
  have hreported := h.standing_iff_report (by simpa [isActive, Option.mem_def.mp hi] using hactive)
  have hreport : e.report = none := by simpa [hstanding] using hreported
  rw [← Option.mem_def.mp hi, ← hstanding, ← hreport]

/-- The record decides whether a purge succeeds. A report that has to be made up is made of the
record alone, since no standing was lost. -/
theorem InStep.purge_answer (h : e.InStep) (id : String) :
    (e.purge id).1 = match e.record with
      | some i => .ok (e.report.getD (.unprobed i))
      | none => .error (.notFound .report id) := by
  simp only [purge]
  cases hrecord : e.record with
  | none => rw [(h.eq_none hrecord).2]; rfl
  | some i =>
    cases hreport : e.report with
    | some r => rfl
    | none =>
      simp [h.standing_of_unreported hreport, Report.make_initial]

/-- What an outcome does to an active instance that was never probed. -/
theorem applyOutcome_unprobed {i : Instance} (hactive : i.isActive) (t : Thresholds)
    (now : Timestamp) (probed : Instance) (outcome : Probe.Outcome) :
    let first := Standing.initial.observe t now probed.protocol outcome
    let report := Report.make i first.1 (some outcome)
    applyOutcome t now probed outcome ⟨some i, none, none⟩ =
      (some ⟨report, first.2⟩, ⟨some i, some first.1, some report⟩) := by
  simp [applyOutcome, Option.filter, hactive]

end Entry

/-- What a purge of an id answers, and what it leaves of a fleet. No meter changes but the gauges of
the instance. -/
structure Purged (f : Fleet) (id : String) (result : Except Error Report) (g : Fleet) : Prop where
  answer : result = match f.catalog.find? id with
    | some i => .ok ((f.board.find? id).getD (.unprobed i))
    | none => .error (.notFound .report id)
  report : g.board.find? id = none
  standing : g.standings.get? id = none
  record : g.catalog.find? id = (f.catalog.find? id).filter Instance.isActive
  others : ∀ other, other ≠ id → g.entry other = f.entry other
  gauges : ∀ labels, labels.head? ≠ some id →
    g.meters.map (·.shown labels) = f.meters.map (·.shown labels)
  counts : g.meters.map Meters.ungauged = f.meters.map Meters.ungauged
  unchanged : f.catalog.find? id = none → g = f

variable {f : Fleet} {id : String} {now : Timestamp}

theorem Sound.purge_answer (h : f.Sound) (id : String) :
    (f.purge id).1 = match f.catalog.find? id with
      | some i => .ok ((f.board.find? id).getD (.unprobed i))
      | none => .error (.notFound .report id) := by
  rw [(purge_entry f id id).1, (h.inStep id).purge_answer]
  rfl

theorem Sound.purged (h : f.Sound) (id : String) : f.Purged id (f.purge id).1 (f.purge id).2 := by
  have hentry : (f.purge id).2.entry id = ⟨(f.catalog.find? id).filter Instance.isActive, none,
      none⟩ := by
    rw [(purge_entry f id id).2, if_pos rfl]
    rfl
  have hmeters {α : Type} (read : Meters → α) (hread : ∀ m, read ((f.entry id).count
      f.standings.thresholds ⟨0⟩ (.purge id) m) = read m) :
      (f.purge id).2.meters.map read = f.meters.map read := by
    rw [purge_meters, Option.map_map]
    exact congrArg (f.meters.map ·) (funext hread)
  constructor
  case answer => exact h.purge_answer id
  case report => exact congrArg Entry.report hentry
  case standing => exact congrArg Entry.standing hentry
  case record => exact congrArg Entry.record hentry
  case others => exact fun other hother => by rw [(purge_entry f other id).2, if_neg hother]
  case gauges =>
    intro labels hlabels
    have hkeyed : ∀ i ∈ (f.entry id).record, i.serviceId = (Call.purge id).subject := h.keyed id
    exact hmeters (·.shown labels) fun m => (h.inStep id).shown_count_of_ne hkeyed m hlabels
  case counts =>
    exact hmeters Meters.ungauged fun m =>
      ((f.entry id).count_ungauged _ _ _ m).trans (Meters.Ticks.silent_apply m.ungauged)
  case unchanged =>
    intro hrecord
    have hanswer : (f.purge id).1 = .error (.notFound .report id) := by
      rw [h.purge_answer, hrecord]
    have herror : (f.perform ⟨0⟩ (.purge id)).1.error? = some (.notFound .report id) := by
      show Answer.error? (.report (f.purge id).1) = _
      rw [hanswer]
      rfl
    exact h.perform_of_error herror

/-- A second purge fails if the first has taken the record, and has no report to answer with
otherwise. -/
theorem Purged.again {result : Except Error Report} {g : Fleet} (h : f.Purged id result g)
    (hg : g.Sound) {i : Instance} (hi : i ∈ f.catalog.find? id) : (g.purge id).1 =
      if i.isActive then .ok (.unprobed i) else .error (.notFound .report id) := by
  rw [hg.purge_answer, h.record, h.report, Option.mem_def.mp hi]
  cases hactive : i.isActive <;> simp [Option.filter, hactive]

/-- A call does not bring a standing about unless it is an outcome that is applied. -/
theorem Sound.standing_eq_none (h : f.Sound) (hstanding : (f.entry id).standing = none) {c : Call}
    (hc : ∀ o ∈ c.outcome?, o.1.serviceId = id → (f.applyOutcome now o.1 o.2).1 = none) :
    ((f.perform now c).2.entry id).standing = none := by
  rw [standing_perform h.keyed (h.inStep id)]
  cases c with
  | applyOutcome probed outcome =>
    have hdiscarded : ¬ (probed.serviceId = id ∧ f.catalog.isActive id) := by
      rintro ⟨rfl, hactive⟩
      have happlied := (applyOutcome_answer h.keyed now probed outcome).1.mpr hactive
      simp [hc (probed, outcome) rfl rfl] at happlied
    rw [event?, if_neg hdiscarded]
    exact hstanding
  | register | updateMetadata => exact hstanding
  | deregister | purge =>
    simp only [event?]
    split_ifs
    · rfl
    · exact hstanding

end Fleet

namespace Monitor

variable {m : Monitor} {f f' : Fleet} {now : Timestamp} {event : Option Event} {id : String}

/-- No effect brings a standing about unless it applies an outcome. -/
theorem Effect.standing_eq_none (h : Effect now f event f') (hf : f.Sound)
    (hstanding : (f.entry id).standing = none)
    (hevent : ∀ d, event = some (.delivered d) → d.probed.serviceId = id → d.applied = none) :
    (f'.entry id).standing = none := by
  obtain ⟨change, hsame, hdelivered⟩ := h.stores
  rw [hsame.entry]
  cases change with
  | none => exact hstanding
  | some c =>
    exact hf.standing_eq_none hstanding fun o ho => hevent _ (hdelivered c rfl o ho)

theorem standing_eq_none_run (hf : m.fleet.Sound) (hstanding : (m.fleet.entry id).standing = none)
    {acts : List (Timestamp × Act)}
    (hacts : ∀ d ∈ m.deliveries acts, d.probed.serviceId = id → d.applied = none) :
    ((m.run acts).fleet.entry id).standing = none := by
  induction acts generalizing m with
  | nil => exact hstanding
  | cons a rest ih =>
    have heffect := effect_of_act a.1 m a.2
    obtain ⟨hfirst, hrest⟩ := forall_mem_deliveries_cons.mp hacts
    exact ih (heffect.sound hf) (heffect.standing_eq_none hf hstanding hfirst) hrest

/-- A purge starts over. Whatever happened before, the purge of an id succeeds exactly if there is a
record, and answers with the last report or, if there is none, with that on an instance which was
never probed; report and standing are gone, and so is the record of an instance that has left; no
other id is touched. A second purge right after it fails if the instance had left, and otherwise
answers as for one that was never probed. And whatever happens later, as long as no outcome is
applied to the instance, the next one that is meets it as if it were the first. -/
theorem purge_starts_over (t : Thresholds) (metered : Bool) (acts : List (Timestamp × Act))
    (now : Timestamp) (id : String) :
    let m := (start t metered).run acts
    let f := m.fleet
    let after := m.act now (.call (.purge id))
    f.Purged id (f.purge id).1 after.fleet ∧
    (∀ i ∈ f.catalog.find? id, (after.fleet.purge id).1 =
      if i.isActive then .ok (.unprobed i) else .error (.notFound .report id)) ∧
    ∀ later, (∀ d ∈ after.deliveries later, d.probed.serviceId = id → d.applied = none) →
      let k := (after.run later).fleet
      ∀ i ∈ k.catalog.find? id, i.isActive → ∀ now probed outcome, probed.serviceId = id →
        let first := Standing.initial.observe t now probed.protocol outcome
        let report := Report.make i first.1 (some outcome)
        (k.applyOutcome now probed outcome).1 = some ⟨report, first.2⟩ ∧
        (k.applyOutcome now probed outcome).2.entry id = ⟨some i, some first.1, some report⟩ := by
  intro m f after
  have hf : f.Sound := sound_run t metered acts
  have heffect := effect_of_act now m (.call (.purge id))
  have hafter : after.fleet.Sound := heffect.sound hf
  have hpurged : f.Purged id (f.purge id).1 after.fleet := hf.purged id
  refine ⟨hpurged, fun i hi => hpurged.again hafter hi, fun later hlater => ?_⟩
  intro k
  have hall : k = ((start t metered).run (acts ++ (now, .call (.purge id)) :: later)).fleet := by
    rw [← run_append]
    rfl
  have hk : k.Sound := hall ▸ sound_run t metered _
  have ht : k.standings.thresholds = t := by
    rw [hall, thresholds_run]
    rfl
  have hstanding : (k.entry id).standing = none :=
    standing_eq_none_run hafter hpurged.standing hlater
  rintro i hi hactive now probed outcome rfl first report
  have hentry := (hk.inStep probed.serviceId).eq_unprobed hstanding hi hactive
  obtain ⟨hanswer, hleft⟩ := Fleet.applyOutcome_entry now probed.serviceId hk.keyed probed outcome
  rw [hentry, ht, Fleet.Entry.applyOutcome_unprobed hactive] at hanswer hleft
  exact ⟨hanswer, hleft.trans (if_pos rfl)⟩

/-- The first purge answers with what the probe has found, the second finds nothing left of it. -/
example :
    let orders : Registration := ⟨"i1", "orders", "10.0.0.5", 8080, .http, .empty⟩
    let f := ((start ⟨1, 1⟩ true).run [(⟨0⟩, .call (.register orders)),
      (⟨1⟩, .call (.applyOutcome (.ofRegistration orders ⟨0⟩) (.succeeded ⟨5⟩ "HTTP 200")))]).fleet
    ((f.purge "i1").1.map Report.status).toOption = some .healthy ∧
    ((f.purge "i1").2.purge "i1").1.toOption = some (.unprobed (.ofRegistration orders ⟨0⟩)) := by
  decide

end Monitor

end ServiceHealth
