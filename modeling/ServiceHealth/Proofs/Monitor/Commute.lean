import ServiceHealth.Proofs.Fleet.Gauges
import ServiceHealth.Proofs.Fleet.Stores
import ServiceHealth.Proofs.Monitor.Basic

/-!
# Calls about different ids

A call finds under its own id what it found before a call about another id, so it gives the same
answer and leaves the same there. The meters are shared between ids: gauges of instances have the
id among their labels, and counts do not depend on the order in which they are made.
-/
namespace ServiceHealth

/-- The meters are known from the gauges of instances and from the rest. -/
theorem Meters.ext_shown {m n : Meters} (hrest : m.ungauged = n.ungauged)
    (hshown : ∀ labels, m.shown labels = n.shown labels) : m = n := by
  have hstatus : m.instanceStatus = n.instanceStatus :=
    Table.ext_get? fun labels => congrArg Meter.Shown.status (hshown labels)
  have hsuccesses : m.successes = n.successes :=
    Table.ext_get? fun labels => congrArg Meter.Shown.successes (hshown labels)
  have hfailures : m.failures = n.failures :=
    Table.ext_get? fun labels => congrArg Meter.Shown.failures (hshown labels)
  cases m
  cases n
  simp_all [ungauged]

namespace Fleet

namespace Entry

variable {t : Thresholds} {now later : Timestamp} {e other : Entry} {c d : Call}

/-- What a call changes of the gauges does not depend on what the rest shows. -/
theorem InStep.shown_count_congr (h : e.InStep) (hkeyed : ∀ i ∈ e.record, i.serviceId = c.subject)
    {m n : Meters} {labels : Meter.Labels} (hsame : m.shown labels = n.shown labels) :
    (e.count t now c m).shown labels = (e.count t now c n).shown labels := by
  rw [h.shown_count t now hkeyed, h.shown_count t now hkeyed, hsame]

/-- A call leaves the gauges of other ids. -/
theorem InStep.shown_count_of_ne (h : e.InStep) (hkeyed : ∀ i ∈ e.record, i.serviceId = c.subject)
    (m : Meters) {labels : Meter.Labels} (hlabels : labels.head? ≠ some c.subject) :
    (e.count t now c m).shown labels = m.shown labels := by
  rw [h.shown_count t now hkeyed]
  cases e.written t now c with
  | none => rfl
  | some written =>
    have hne : labels ≠ [c.subject, written.1] := by
      intro heq
      simp [heq] at hlabels
    exact if_neg hne

/-- Two calls about different ids change the meters in either order alike, apart from the sums. -/
theorem InStep.count_comm (h : e.InStep) (hkeyed : ∀ i ∈ e.record, i.serviceId = c.subject)
    (hother : other.InStep) (hotherKeyed : ∀ i ∈ other.record, i.serviceId = d.subject)
    (hne : c.subject ≠ d.subject) (m : Meters) :
    (other.count t later d (e.count t now c m)).unsummed =
      (e.count t now c (other.count t later d m)).unsummed := by
  apply Meters.ext_shown
  · have hcounts := Meters.Ticks.apply_comm (e.ticks t now c) (other.ticks t later d) m.ungauged
    rw [← count_ungauged, ← count_ungauged, ← count_ungauged, ← count_ungauged] at hcounts
    exact hcounts
  · intro labels
    show (other.count t later d (e.count t now c m)).shown labels =
      (e.count t now c (other.count t later d m)).shown labels
    by_cases hlabels : labels.head? = some c.subject
    · have hd : labels.head? ≠ some d.subject := by simp [hlabels, hne]
      have hfirst : (other.count t later d m).shown labels = m.shown labels :=
        hother.shown_count_of_ne hotherKeyed m hd
      rw [hother.shown_count_of_ne hotherKeyed _ hd, h.shown_count_congr hkeyed hfirst]
    · have hfirst : (e.count t now c m).shown labels = m.shown labels :=
        h.shown_count_of_ne hkeyed m hlabels
      rw [h.shown_count_of_ne hkeyed _ hlabels, hother.shown_count_congr hotherKeyed hfirst]

end Entry

/-- Two calls, each with its own reading of the clock, may be made in either order: each gets the
same answer whether it is made first or second, and in the end records, standings, reports and
meters are the same, but for the sums of latencies, which are rounded at every observation. -/
structure Commute (f : Fleet) (now later : Timestamp) (c d : Call) : Prop where
  answer : ((f.perform later d).2.perform now c).1 = (f.perform now c).1
  other : ((f.perform now c).2.perform later d).1 = (f.perform later d).1
  stores : ((f.perform now c).2.perform later d).2.SameStores
    ((f.perform later d).2.perform now c).2
  meters : ((f.perform now c).2.perform later d).2.meters.map Meters.unsummed =
    ((f.perform later d).2.perform now c).2.meters.map Meters.unsummed

variable {f : Fleet} {c d : Call}

/-- The answer to a call is the same after a call about another id. -/
theorem answer_perform_of_ne (hf : f.catalog.Keyed) (hne : c.subject ≠ d.subject)
    (now later : Timestamp) :
    ((f.perform now c).2.perform later d).1 = (f.perform later d).1 := by
  have hafter := keyed_perform hf now c
  rw [(perform_entry later d.subject hafter d).1, (perform_entry later d.subject hf d).1,
    entry_perform_of_ne now d.subject hf hne.symm, thresholds_perform]

/-- What is held under an id after two calls, one of which is about that id. -/
theorem entry_perform_perform (hf : f.catalog.Keyed) (hne : c.subject ≠ d.subject)
    (now later : Timestamp) (id : String) :
    ((f.perform now c).2.perform later d).2.entry id =
      if id = c.subject then ((f.entry id).perform f.standings.thresholds now c).2
      else if id = d.subject then ((f.entry id).perform f.standings.thresholds later d).2
      else f.entry id := by
  have hafter := keyed_perform hf now c
  rw [(perform_entry later id hafter d).2, thresholds_perform, (perform_entry now id hf c).2]
  by_cases hc : id = c.subject
  · subst hc
    simp [hne]
  · simp [hc]

theorem sameStores_perform_comm (hf : f.catalog.Keyed) (hne : c.subject ≠ d.subject)
    (now later : Timestamp) : ((f.perform now c).2.perform later d).2.SameStores
      ((f.perform later d).2.perform now c).2 := by
  apply sameStores_of_entry
  · simp only [thresholds_perform]
  · intro id
    rw [entry_perform_perform hf hne, entry_perform_perform hf hne.symm]
    by_cases hc : id = c.subject
    · simp [hc, hne]
    · simp [hc]

theorem Sound.meters_perform_comm (h : f.Sound) (hne : c.subject ≠ d.subject)
    (now later : Timestamp) :
    ((f.perform now c).2.perform later d).2.meters.map Meters.unsummed =
      ((f.perform later d).2.perform now c).2.meters.map Meters.unsummed := by
  have hfirst := keyed_perform h.keyed now c
  have hsecond := keyed_perform h.keyed later d
  rw [perform_meters hfirst, perform_meters hsecond, perform_meters h.keyed,
    perform_meters h.keyed, thresholds_perform, thresholds_perform,
    entry_perform_of_ne now d.subject h.keyed hne.symm,
    entry_perform_of_ne later c.subject h.keyed hne]
  cases f.meters with
  | none => rfl
  | some m =>
    exact congrArg some ((h.inStep c.subject).count_comm (h.keyed c.subject) (h.inStep d.subject)
      (h.keyed d.subject) hne m)

end Fleet

namespace Monitor

open Fleet (Call)

/-- Calls about different ids commute, whatever was called, requested and probed before. -/
theorem calls_about_different_ids_commute (t : Thresholds) (metered : Bool)
    (acts : List (Timestamp × Act)) (now later : Timestamp) (c d : Call)
    (h : c.subject ≠ d.subject) :
    ((start t metered).run acts).fleet.Commute now later c d := by
  have hf : ((start t metered).run acts).fleet.Sound := sound_run t metered acts
  constructor
  case answer => exact Fleet.answer_perform_of_ne hf.keyed h.symm later now
  case other => exact Fleet.answer_perform_of_ne hf.keyed h now later
  case stores => exact Fleet.sameStores_perform_comm hf.keyed h now later
  case meters => exact hf.meters_perform_comm h now later

/-- One instance fails its probe for the first time while another leaves. In either order the probe
and the change of status are counted. -/
theorem failure_and_departure_commute :
    let orders : Registration := ⟨"i1", "orders", "10.0.0.5", 8080, .http, .empty⟩
    let billing : Registration := ⟨"i2", "billing", "10.0.0.6", 8080, .tcp, .empty⟩
    let failure : Call := .applyOutcome (.ofRegistration orders ⟨0⟩) (.timedOut ⟨5⟩)
    let departure : Call := .deregister "i2"
    let f := ((start ⟨1, 1⟩ true).run
      [(⟨0⟩, .call (.register orders)), (⟨1⟩, .call (.register billing))]).fleet
    failure.subject ≠ departure.subject ∧
    (((f.perform ⟨3⟩ departure).2.perform ⟨2⟩ failure).2.meters.map fun m =>
      (m.probes.get? ["orders", "http", "timeout"], m.transitions.size)) = some (some 1, 1) ∧
    f.Commute ⟨2⟩ ⟨3⟩ failure departure := by
  intro orders billing failure departure f
  have hne : failure.subject ≠ departure.subject := by decide
  have hcounted : (((f.perform ⟨3⟩ departure).2.perform ⟨2⟩ failure).2.meters.map fun m =>
      (m.probes.get? ["orders", "http", "timeout"], m.transitions.size)) = some (some 1, 1) := by
    decide
  exact ⟨hne, hcounted, calls_about_different_ids_commute ⟨1, 1⟩ true _ ⟨2⟩ ⟨3⟩ failure departure
    hne⟩

end Monitor

end ServiceHealth
