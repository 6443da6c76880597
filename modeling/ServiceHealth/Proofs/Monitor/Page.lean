import ServiceHealth.Proofs.Meter.Reading
import ServiceHealth.Proofs.Monitor.Conservation

/-!
# The metrics page of a monitor

The labels on the page are words of the program and names that outcomes bring with them: that of the
instance that was probed, and the id and the name in its record. As long as these are legible, the
page can be read.
-/
namespace ServiceHealth

namespace Meter

variable {α : Type} {f : Family α} {labels : Labels}

theorem LegibleFamily.insert (h : LegibleFamily f) (hlabels : ∀ v ∈ labels, Legible v) (a : α) :
    LegibleFamily (f.insert labels a) := by
  intro e he
  obtain rfl | he := Table.mem_insertEntry he
  · exact hlabels
  · exact h e he

theorem LegibleFamily.erase (h : LegibleFamily f) (labels : Labels) :
    LegibleFamily (f.erase labels) :=
  fun e he => h e (List.mem_of_mem_filter he)

theorem legibleFamily_empty : LegibleFamily (Table.empty : Family α) := by
  simp [LegibleFamily, Table.empty]

end Meter

theorem Probe.Protocol.legible_name (p : Protocol) : Meter.Legible p.name := by cases p <;> decide

theorem Probe.Kind.legible_name (k : Kind) : Meter.Legible k.name := by cases k <;> decide

theorem Status.legible_label (s : Status) : Meter.Legible s.label := by cases s <;> decide

theorem Api.Resource.legible_label (r : Resource) : Meter.Legible r.label := by
  unfold label
  split <;> decide

namespace Meters

variable {m : Meters}

theorem legible_initial : initial.Legible := by
  constructor <;> exact Meter.legibleFamily_empty

theorem Legible.recordProbe (h : m.Legible) {service : String} (hservice : Meter.Legible service)
    (protocol : Probe.Protocol) (kind : Probe.Kind) (latency : Span) :
    (m.recordProbe service protocol kind latency).Legible :=
  { h with
    probes := h.probes.insert (by simp [hservice, protocol.legible_name, kind.legible_name]) _
    probeLatency := h.probeLatency.insert (by simp [protocol.legible_name]) _ }

theorem Legible.setInstance (h : m.Legible) {id service : String} (hid : Meter.Legible id)
    (hservice : Meter.Legible service) (status : Status) (successes failures : UInt32) :
    (m.setInstance id service status successes failures).Legible :=
  { h with
    instanceStatus := h.instanceStatus.insert (by simp [hid, hservice]) _
    successes := h.successes.insert (by simp [hid, hservice]) _
    failures := h.failures.insert (by simp [hid, hservice]) _ }

theorem Legible.removeInstance (h : m.Legible) (id service : String) :
    (m.removeInstance id service).Legible :=
  { h with
    instanceStatus := h.instanceStatus.erase _
    successes := h.successes.erase _
    failures := h.failures.erase _ }

theorem Legible.recordTransition (h : m.Legible) {service : String}
    (hservice : Meter.Legible service) (t : Transition) : (m.recordTransition service t).Legible :=
  { h with
    transitions := h.transitions.insert
      (by simp [hservice, t.source.legible_label, t.target.legible_label]) _ }

theorem Legible.recordDiscarded (h : m.Legible) : m.recordDiscarded.Legible := { h with }

theorem Legible.recordRound (h : m.Legible) (duration : Span) (active : Nat) (tally : Tally) :
    (((m.recordRound duration).setActive active).setTally tally).Legible := by
  have hlabel (s : Status) : ∀ v ∈ [s.label], Meter.Legible v := by simp [s.legible_label]
  exact { h with
    instancesByStatus := ((h.instancesByStatus.insert (hlabel _) _).insert (hlabel _) _).insert
      (hlabel _) _ }

theorem Legible.recordNotFound (h : m.Legible) {label : String} (hlabel : Meter.Legible label) :
    (m.recordNotFound label).Legible :=
  { h with notFound := h.notFound.insert (by simp [hlabel]) _ }

end Meters

/-- What the meters see of an outcome is legible: the name of the instance that was probed, and the
id and the name in the record that its id has now, if that is active. -/
structure Delivery.Legible (d : Delivery) : Prop where
  probed : Meter.Legible d.probed.serviceName
  id : ∀ i ∈ d.record.filter Instance.isActive, Meter.Legible i.serviceId
  name : ∀ i ∈ d.record.filter Instance.isActive, Meter.Legible i.serviceName

instance (d : Delivery) : Decidable d.Legible :=
  let current := d.record.filter Instance.isActive
  decidable_of_iff (Meter.Legible d.probed.serviceName ∧
      (∀ i ∈ current, Meter.Legible i.serviceId) ∧ ∀ i ∈ current, Meter.Legible i.serviceName)
    ⟨fun ⟨hprobed, hid, hname⟩ => ⟨hprobed, hid, hname⟩, fun h => ⟨h.probed, h.id, h.name⟩⟩

/-- All values of labels on the meters are legible, if there are any meters. -/
def Fleet.LegibleMeters (f : Fleet) : Prop := ∀ m ∈ f.meters, m.Legible

namespace Fleet

variable {f : Fleet} {now : Timestamp}

theorem LegibleMeters.meter (h : f.LegibleMeters) {change : Meters → Meters}
    (hchange : ∀ m : Meters, m.Legible → (change m).Legible) : (f.meter change).LegibleMeters := by
  intro m hm
  obtain ⟨old, hold, rfl⟩ := Option.map_eq_some_iff.mp hm
  exact hchange old (h old hold)

/-- An outcome brings the labels of its delivery. -/
theorem Entry.legible_countOutcome {t : Thresholds} {e : Entry} {probed : Instance}
    {m : Meters} (h : m.Legible) (hprobed : Meter.Legible probed.serviceName)
    (hcurrent : ∀ i ∈ e.record.filter Instance.isActive,
      Meter.Legible i.serviceId ∧ Meter.Legible i.serviceName)
    (outcome : Probe.Outcome) : (e.countOutcome t now probed outcome m).Legible := by
  have hcounted := h.recordProbe hprobed probed.protocol outcome.kind outcome.latency
  unfold countOutcome
  simp only
  cases hrecord : e.record.filter Instance.isActive with
  | none => exact hcounted.recordDiscarded
  | some current =>
    obtain ⟨hid, hname⟩ := hcurrent current hrecord
    have hset := hcounted.setInstance hid hname
    cases ((e.standing.getD .initial).observe t now probed.protocol outcome).2 with
    | none => exact hset _ _ _
    | some change => exact (hset _ _ _).recordTransition hname change

/-- A call brings no labels but those of its outcome. -/
theorem Entry.legible_count {t : Thresholds} {e : Entry} {m : Meters} (h : m.Legible) {c : Call}
    (houtcome : ∀ probed outcome, c = .applyOutcome probed outcome →
      (e.countOutcome t now probed outcome m).Legible) : (e.count t now c m).Legible := by
  cases c with
  | register r =>
    simp only [count]
    split
    · exact h.removeInstance r.serviceId r.serviceName
    · exact h
  | deregister subject =>
    simp only [count]
    cases e.record with
    | some i => exact h.removeInstance i.serviceId i.serviceName
    | none => exact h
  | updateMetadata subject pairs => exact h
  | purge subject =>
    simp only [count]
    cases (e.purge subject).1 with
    | ok r => exact h.removeInstance r.serviceId r.serviceName
    | error _ => exact h
  | applyOutcome probed outcome => exact houtcome probed outcome rfl

theorem LegibleMeters.perform (h : f.LegibleMeters) (hf : f.Sound) {c : Call}
    (hc : ∀ o ∈ c.outcome?, (f.deliver now o.1 o.2).Legible) :
    (f.perform now c).2.LegibleMeters := by
  intro m hm
  rw [perform_meters hf.keyed] at hm
  obtain ⟨old, hold, rfl⟩ := Option.map_eq_some_iff.mp hm
  have hold := h old hold
  refine Entry.legible_count hold fun probed outcome hcall => ?_
  subst hcall
  have hlegible := hc (probed, outcome) rfl
  exact Entry.legible_countOutcome hold hlegible.probed
    (fun i hi => ⟨hlegible.id i hi, hlegible.name i hi⟩) outcome

end Fleet

namespace Monitor

open Meter

variable {m : Monitor}

/-- An act brings no labels but those of the outcome that it delivers. -/
theorem legibleMeters_act (hf : m.fleet.Sound) (h : m.fleet.LegibleMeters) (now : Timestamp)
    {a : Act} (ha : ∀ d, m.event? now a = some (.delivered d) → d.Legible) :
    (m.act now a).fleet.LegibleMeters := by
  have hchanged (change : Option Fleet.Call) (hdelivered : ∀ c ∈ change, ∀ o ∈ c.outcome?,
      (m.fleet.deliver now o.1 o.2).Legible) : (Api.changed now m.fleet change).LegibleMeters := by
    cases change with
    | none => exact h
    | some c => exact h.perform hf (hdelivered c rfl)
  obtain ⟨duration, -, hfleet⟩ | ⟨change, hevent, hfleet⟩ |
    ⟨change, resource, fault, -, hsilent, hfleet⟩ := fleet_of_act now m a
  · rw [hfleet]
    exact h.meter fun old hold => hold.recordRound ..
  · rw [hfleet]
    refine hchanged change fun c hc o ho => ha _ ?_
    rw [hevent, Option.mem_def.mp hc, Option.bind_some, eventOfCall?, Option.mem_def.mp ho,
      Option.map_some]
  · have hcalled : (Api.changed now m.fleet change).LegibleMeters :=
      hchanged change fun c hc o ho => by simp [hsilent c hc] at ho
    rw [hfleet, Api.counted]
    split
    · exact hcalled.meter fun old hold => hold.recordNotFound resource.legible_label
    · exact hcalled

theorem legibleMeters_run (hf : m.fleet.Sound) (h : m.fleet.LegibleMeters)
    {acts : List (Timestamp × Act)} (hacts : ∀ d ∈ m.deliveries acts, d.Legible) :
    (m.run acts).fleet.LegibleMeters := by
  induction acts generalizing m with
  | nil => exact h
  | cons a rest ih =>
    obtain ⟨hfirst, hrest⟩ := forall_mem_deliveries_cons.mp hacts
    exact ih ((effect_of_act a.1 m a.2).sound hf) (legibleMeters_act hf h a.1 hfirst) hrest

theorem legible_run {t : Thresholds} {acts : List (Timestamp × Act)}
    (hacts : ∀ d ∈ (start t true).deliveries acts, d.Legible) :
    ((start t true).run acts).fleet.LegibleMeters := by
  have hstart : (start t true).fleet.LegibleMeters := by
    rintro m ⟨⟩
    exact Meters.legible_initial
  exact legibleMeters_run (sound_run t true []) hstart hacts

/-- The page can be read back. Take a fleet with meters and any acts, and let the outcomes that are
delivered bring legible names. Then samples of one family that begin in the same way have the same
labels; on every text that shows the meters, each comment and each sample is one line; and the text
shows nothing else: whatever meters came about in this way, under any thresholds, if they are shown
by the same text they have the same families with the same samples. -/
theorem page_is_read_back (t : Thresholds) {acts : List (Timestamp × Act)}
    (hacts : ∀ d ∈ (start t true).deliveries acts, d.Legible) :
    ∃ m, ((start t true).run acts).fleet.meters = some m ∧ m.ShownBy m.page ∧
      (∀ b ∈ m.blocks, ∀ s ∈ b.samples, ∀ s' ∈ b.samples, s.head b.name = s'.head b.name →
        s.suffix = s'.suffix ∧ s.labels = s'.labels) ∧
      ∀ text, m.ShownBy text →
        (∃ blocks, List.Forall₂ Block.Reorders m.blocks blocks ∧
          Text.pieces (· = '\n') text.toList =
            (blocks.flatMap Block.lines ++ ["# EOF"]).map String.toList ++ [[]]) ∧
        ∀ t' acts', (∀ d ∈ (start t' true).deliveries acts', d.Legible) →
          ∀ m', ((start t' true).run acts').fleet.meters = some m' → m'.ShownBy text →
            List.Forall₂ Block.Reorders m.blocks m'.blocks := by
  obtain ⟨m, hm, -⟩ := audited_run t acts
  have hlegible : m.Legible := legible_run hacts m hm
  refine ⟨m, hm, m.shownBy_page, fun b hb s hs s' hs' hhead => ?_,
    fun text htext => ⟨?_, fun t' acts' hacts' m' hm' hsame => ?_⟩⟩
  · have hregular := (Meters.regular_blocks hlegible b hb).samples
    exact head_inj (hregular s hs) (hregular s' hs') hhead
  · obtain ⟨blocks, horder, rfl⟩ := htext
    exact ⟨blocks, horder,
      pieces_pageText (regular_of_reorders horder (Meters.regular_blocks hlegible))⟩
  · exact htext.unique hlegible (legible_run hacts' m' hm') hsame

/-- Commas, equals signs and backslashes in names do no harm. -/
theorem page_of_two_instances_is_read_back :
    let orders : Registration := ⟨"i1", "orders,kind=eu", "10.0.0.5", 8080, .http, .empty⟩
    let billing : Registration := ⟨"i2", "a\\b", "10.0.0.6", 8080, .tcp, .empty⟩
    let acts : List (Timestamp × Act) := [(⟨0⟩, .call (.register orders)),
      (⟨1⟩, .call (.register billing)),
      (⟨2⟩, .call (.applyOutcome (.ofRegistration orders ⟨0⟩) (.succeeded ⟨5⟩ "HTTP 200"))),
      (⟨3⟩, .call (.applyOutcome (.ofRegistration billing ⟨1⟩) (.timedOut ⟨5⟩)))]
    (∀ d ∈ (start ⟨1, 1⟩ true).deliveries acts, d.Legible) ∧
    ∃ m, ((start ⟨1, 1⟩ true).run acts).fleet.meters = some m ∧ m.instanceStatus.size = 2 ∧
      ∀ t' acts', (∀ d ∈ (start t' true).deliveries acts', d.Legible) →
        ∀ m', ((start t' true).run acts').fleet.meters = some m' → m'.ShownBy m.page →
          List.Forall₂ Block.Reorders m.blocks m'.blocks := by
  intro orders billing acts
  have hacts : ∀ d ∈ (start ⟨1, 1⟩ true).deliveries acts, d.Legible := by decide
  have hsize : (((start ⟨1, 1⟩ true).run acts).fleet.meters.map fun m => m.instanceStatus.size) =
      some 2 := by decide
  obtain ⟨m, hm, hpage, -, hshown⟩ := page_is_read_back ⟨1, 1⟩ hacts
  rw [hm, Option.map_some, Option.some_inj] at hsize
  exact ⟨hacts, m, hm, hsize, (hshown m.page hpage).2⟩

/-- Quotes in names do harm: the gauges of two instances begin in the same way. -/
theorem instances_with_quotes_look_the_same :
    let first : Registration :=
      ⟨"a", "b\",service_name=\"c", "10.0.0.5", 8080, .http, .empty⟩
    let second : Registration :=
      ⟨"a\",service_name=\"b", "c", "10.0.0.5", 8080, .http, .empty⟩
    let acts : List (Timestamp × Act) := [(⟨0⟩, .call (.register first)),
      (⟨0⟩, .call (.register second)),
      (⟨1⟩, .call (.applyOutcome (.ofRegistration first ⟨0⟩) (.succeeded ⟨2⟩ "HTTP 200"))),
      (⟨1⟩, .call (.applyOutcome (.ofRegistration second ⟨0⟩) (.succeeded ⟨2⟩ "HTTP 200")))]
    ∃ m, ((start ⟨1, 1⟩ true).run acts).fleet.meters = some m ∧
      ∃ b ∈ m.blocks, ∃ s ∈ b.samples, ∃ s' ∈ b.samples,
        s.labels ≠ s'.labels ∧ s.head b.name = s'.head b.name := by
  intro first second acts
  have hgauges : (((start ⟨1, 1⟩ true).run acts).fleet.meters.map
      fun m => m.instanceStatus.entries) =
      some [(["a", "b\",service_name=\"c"], 1), (["a\",service_name=\"b", "c"], 1)] := by decide
  obtain ⟨m, hm, hentries⟩ := Option.map_eq_some_iff.mp hgauges
  let status : Block := ⟨"mesh_health_instance_status",
    "Current health status (0=unknown, 1=healthy, 2=unhealthy)", .gauge,
    gaugeSamples ["service_id", "service_name"] m.instanceStatus⟩
  have hstatus : status ∈ m.blocks :=
    List.mem_of_getElem? (show m.blocks[3]? = some status from rfl)
  let s : Sample := ⟨"", [("service_id", "a"), ("service_name", "b\",service_name=\"c")], "1"⟩
  let s' : Sample := ⟨"", [("service_id", "a\",service_name=\"b"), ("service_name", "c")], "1"⟩
  have hhead : s.head "mesh_health_instance_status" = s'.head "mesh_health_instance_status" := by
    decide
  have hsamples : status.samples = [s, s'] := by
    simp only [status, gaugeSamples, hentries]
    decide
  exact ⟨m, hm, status, hstatus, s, hsamples ▸ .head _, s', hsamples ▸ .tail _ (.head _),
    by decide, hhead⟩

end Monitor

end ServiceHealth
