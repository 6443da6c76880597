import ServiceHealth.Proofs.Monitor.Basic
import ServiceHealth.Proofs.Service.Summary
import ServiceHealth.Proofs.Wire.Records

/-!
# What the monitor writes can be read

The times in records, standings and reports are readings of the clock, and a summary counts an
instance once for a key. So whatever the monitor holds or answers may be written, as long as the
clock stays before the year 10000.
-/
namespace ServiceHealth

open Json (RoundTrips)

namespace MetadataSummary

theorem writable_ofInstances {now : Timestamp} (hnow : now.Writable) (name : String)
    {instances : List Instance} (hcount : instances.length < Nat.pow 2 64) :
    (ofInstances now name instances).Writable where
  count := hcount
  generated := hnow
  keys _ hs := Nat.lt_of_le_of_lt (length_values_of_mem_keys hs).2.2 hcount

end MetadataSummary

theorem Standing.writable_observe {now : Timestamp} (hnow : now.Writable) (t : Thresholds)
    (protocol : Probe.Protocol) (outcome : Probe.Outcome) (s : Standing) :
    (s.observe t now protocol outcome).1.Writable := by
  intro probe hprobe
  obtain rfl : now = probe := Option.some.inj hprobe
  exact hnow

namespace Fleet

/-- Everything that is held under an id may be written. -/
structure Entry.Writable (e : Entry) : Prop where
  record : ∀ i ∈ e.record, i.Writable
  standing : ∀ s ∈ e.standing, s.Writable
  report : ∀ r ∈ e.report, r.Writable

/-- The record or the report that an answer gives may be written. -/
def Answer.Writable : Answer → Prop
  | .record result => ∀ i, result = .ok i → i.Writable
  | .report result => ∀ r, result = .ok r → r.Writable
  | .applied result => ∀ a ∈ result, a.report.Writable

namespace Entry

variable {t : Thresholds} {now : Timestamp} {e : Entry}

theorem writable_of_unprobed {record : Option Instance} (h : ∀ i ∈ record, i.Writable) :
    Writable ⟨record, none, none⟩ :=
  ⟨h, by simp, by simp⟩

theorem Writable.standing_getD (h : e.Writable) : (e.standing.getD .initial).Writable := by
  cases hs : e.standing with
  | none => simp [Standing.Writable, Standing.initial]
  | some s => exact h.standing s hs

theorem Writable.describe (h : e.Writable) {i : Instance} (hi : i.Writable) :
    (e.describe i).Writable where
  record j hj := by
    obtain rfl := Option.some.inj hj
    exact hi
  standing := h.standing
  report r hr := by
    obtain ⟨old, hold, rfl⟩ := Option.map_eq_some_iff.mp hr
    exact h.report old hold

theorem Writable.ofRegistration (h : e.Writable) (hnow : now.Writable) (r : Registration) :
    (Instance.ofRegistration r ((e.record.map (·.registeredAt)).getD now)).Writable where
  registered := by
    cases hrecord : e.record with
    | none => exact hnow
    | some i => exact (h.record i hrecord).registered
  left _ hleft := by simp [Instance.ofRegistration] at hleft

theorem writable_of_leaving {i : Instance} (hi : i.Writable) (hnow : now.Writable) :
    Instance.Writable { i with deregisteredAt := some (i.deregisteredAt.getD now) } where
  registered := hi.registered
  left t ht := by
    obtain rfl := Option.some.inj ht
    cases hleft : i.deregisteredAt with
    | none => exact hnow
    | some leaving => exact hi.left leaving hleft

theorem Writable.purge (h : e.Writable) {id : String} {r : Report} (hr : (e.purge id).1 = .ok r) :
    r.Writable := by
  simp only [Entry.purge] at hr
  cases hreport : e.report with
  | some old =>
    obtain rfl : old = r := by simpa [hreport] using hr
    exact h.report old hreport
  | none =>
    cases hrecord : e.record with
    | none => simp [hreport, hrecord] at hr
    | some i =>
      obtain rfl : Report.make i (e.standing.getD .initial) none = r := by
        simpa [hreport, hrecord] using hr
      exact h.standing_getD

/-- A call at a time that may be written answers and leaves only what may be written. -/
theorem Writable.perform (h : e.Writable) (hnow : now.Writable) (c : Call) :
    (e.perform t now c).1.Writable ∧ (e.perform t now c).2.Writable := by
  cases c with
  | register r =>
    simp only [Entry.perform, register]
    split
    · exact ⟨by simp [Answer.Writable], h⟩
    · have hi := h.ofRegistration hnow r
      refine ⟨fun i heq => Except.ok.inj heq ▸ hi, ?_⟩
      split
      · exact writable_of_unprobed fun i heq => Option.some.inj heq ▸ hi
      · exact h.describe hi
  | deregister id =>
    simp only [Entry.perform, deregister]
    split
    · exact ⟨by simp [Answer.Writable], h⟩
    · rename_i i hrecord
      have hi := writable_of_leaving (h.record i hrecord) hnow
      exact ⟨fun j heq => Except.ok.inj heq ▸ hi, fun j heq => Option.some.inj heq ▸ hi, by simp,
        h.report⟩
  | updateMetadata id pairs =>
    simp only [Entry.perform, updateMetadata]
    split
    · exact ⟨by simp [Answer.Writable], h⟩
    · rename_i i hrecord
      have hold := h.record i hrecord
      have hi : Instance.Writable { i with metadata := i.metadata.merge pairs } :=
        ⟨hold.registered, hold.left⟩
      exact ⟨fun j heq => Except.ok.inj heq ▸ hi, h.describe hi⟩
  | purge id =>
    refine ⟨fun r hr => h.purge hr, writable_of_unprobed fun i hi => ?_⟩
    exact h.record i (Option.eq_some_of_filter_eq_some hi)
  | applyOutcome probed outcome =>
    simp only [Entry.perform, applyOutcome]
    split
    · exact ⟨by simp [Answer.Writable], h⟩
    · rename_i current hcurrent
      have hnext := Standing.writable_observe hnow t probed.protocol outcome
        (e.standing.getD .initial)
      have hcurrent := h.record current (Option.eq_some_of_filter_eq_some hcurrent)
      exact ⟨fun a heq => Option.some.inj heq ▸ hnext, fun i heq => Option.some.inj heq ▸ hcurrent,
        fun s heq => Option.some.inj heq ▸ hnext, fun r heq => Option.some.inj heq ▸ hnext⟩

end Entry

/-- The record or the report that an answer gives is decoded from the text that it is encoded as. -/
def Answer.RoundTrips : Answer → Prop
  | .record result =>
      ∀ i, result = .ok i → Json.RoundTrips Instance.decoder Instance.toJson i
  | .report result => ∀ r, result = .ok r → Json.RoundTrips Report.decoder Report.toJson r
  | .applied result => ∀ a ∈ result, Json.RoundTrips Report.decoder Report.toJson a.report

theorem Answer.Writable.roundTrips {a : Answer} (h : a.Writable) : a.RoundTrips := by
  cases a with
  | record result => exact fun i hi => Instance.faithful.roundTrips (h i hi)
  | report result => exact fun r hr => Report.faithful.roundTrips (h r hr)
  | applied result => exact fun a ha => Report.faithful.roundTrips (h a ha)

def Writable (f : Fleet) : Prop := ∀ id, (f.entry id).Writable

variable {f : Fleet} {now : Timestamp}

theorem Sound.writable_perform (hf : f.Sound) (h : f.Writable) (hnow : now.Writable) (c : Call) :
    (f.perform now c).1.Writable ∧ (f.perform now c).2.Writable := by
  refine ⟨?_, fun id => ?_⟩
  · rw [(perform_entry now c.subject hf.keyed c).1]
    exact ((h c.subject).perform hnow c).1
  · rw [(perform_entry now id hf.keyed c).2]
    split
    · exact ((h id).perform hnow c).2
    · exact h id

end Fleet

namespace Monitor

theorem Effect.writable {now : Timestamp} {f f' : Fleet} {event : Option Event}
    (heffect : Effect now f event f') (hf : f.Sound) (h : f.Writable) (hnow : now.Writable) :
    f'.Writable := by
  cases heffect with
  | deliver probed outcome =>
    exact (hf.writable_perform h hnow (.applyOutcome probed outcome)).2
  | finish duration => exact h
  | aside change silent label fault =>
    have hchanged : (Api.changed now f change).Writable := by
      cases change with
      | none => exact h
      | some c => exact (hf.writable_perform h hnow c).2
    rw [Api.counted]
    split
    · exact hchanged
    · exact hchanged

theorem writable_run (t : Thresholds) (metered : Bool) {acts : List (Timestamp × Act)}
    (htimes : ∀ a ∈ acts, a.1.Writable) : ((start t metered).run acts).fleet.Writable := by
  have hempty : Fleet.Entry.Writable ⟨none, none, none⟩ :=
    Fleet.Entry.writable_of_unprobed (by simp)
  have hstart : (start t metered).fleet.Sound ∧ (start t metered).fleet.Writable :=
    ⟨sound_run t metered [], fun _ => hempty⟩
  have hkept : ∀ (past : List Event) now f event f', now.Writable → (f.Sound ∧ f.Writable) →
      Effect now f event f' → f'.Sound ∧ f'.Writable :=
    fun _ _ _ _ _ hnow h heffect => ⟨heffect.sound h.1, heffect.writable h.1 h.2 hnow⟩
  exact (@run_induction _ _ (fun _ f => f.Sound ∧ f.Writable) hkept [] hstart acts htimes).2

open Fleet (Answer)

/-- Values survive the wire. A registration, a record, a standing, a report, a summary or metadata,
from whatever text it was decoded, is decoded again from the text that it is encoded as. So is,
after any acts at times before the year 10000, whatever the fleet holds, and whatever it answers at
such a time: records, standings, reports, and the summary of a service whose instances a word of
sixty-four bits can count. -/
theorem values_survive_the_wire (t : Thresholds) (metered : Bool) (acts : List (Timestamp × Act))
    (htimes : ∀ a ∈ acts, a.1.Writable) :
    (Json.Stable Registration.decoder Registration.toJson ∧
      Json.Stable Instance.decoder Instance.toJson ∧
      Json.Stable Standing.decoder Standing.toJson ∧
      Json.Stable Report.decoder Report.toJson ∧
      Json.Stable MetadataSummary.decoder MetadataSummary.toJson ∧
      Json.Stable Metadata.decoder Metadata.toJson) ∧
    let f := ((start t metered).run acts).fleet
    (∀ id, (∀ i ∈ f.catalog.find? id, RoundTrips Instance.decoder Instance.toJson i) ∧
      (∀ s ∈ f.standings.get? id, RoundTrips Standing.decoder Standing.toJson s) ∧
      ∀ r ∈ f.board.find? id, RoundTrips Report.decoder Report.toJson r) ∧
    ∀ now, Timestamp.Writable now → (∀ c, (f.perform now c).1.RoundTrips) ∧
      ∀ name, (f.catalog.ofService name).length < Nat.pow 2 64 →
        RoundTrips MetadataSummary.decoder MetadataSummary.toJson (f.catalog.summary now name) := by
  refine ⟨⟨Registration.faithful.stable, Instance.faithful.stable, Standing.faithful.stable,
    Report.faithful.stable, MetadataSummary.faithful.stable, Metadata.faithful.stable⟩, ?_⟩
  intro f
  have hsound : f.Sound := sound_run t metered acts
  have hheld : f.Writable := writable_run t metered htimes
  refine ⟨fun id => ⟨fun i hi => ?_, fun s hs => ?_, fun r hr => ?_⟩, fun now hnow =>
    ⟨fun c => ?_, fun name hcount => ?_⟩⟩
  · exact Instance.faithful.roundTrips ((hheld id).record i hi)
  · exact Standing.faithful.roundTrips ((hheld id).standing s hs)
  · exact Report.faithful.roundTrips ((hheld id).report r hr)
  · exact (hsound.writable_perform hheld hnow c).1.roundTrips
  · exact MetadataSummary.faithful.roundTrips
      (MetadataSummary.writable_ofInstances hnow name hcount)

/-- A standing is read from an array, with a blank before the time, a leap second, and a fraction of
one digit; a report is made of a probe at about that time. -/
theorem values_survive_the_wire_on_leap_day :
    let orders : Registration := ⟨"i1", "orders", "10.0.0.5", 8080, .http, .empty⟩
    let probe : Timestamp := ⟨1709208060000000000⟩
    let acts : List (Timestamp × Act) := [(⟨1709208059500000000⟩, .call (.register orders)),
      (probe, .call (.applyOutcome (.ofRegistration orders probe) (.timedOut ⟨5⟩)))]
    let f := ((start ⟨1, 1⟩ false).run acts).fleet
    let standing : Standing := ⟨.healthy, 0, 1, some ⟨1709208059500000000⟩, some .http, none⟩
    (∀ a ∈ acts, a.1.Writable) ∧
    (Json.decode Standing.decoder (Json.inputOfText
      "[\"Healthy\",0,1,\"2024-02-29 12:00:60.5\",\"http\",null]")).toOption = some standing ∧
    RoundTrips Standing.decoder Standing.toJson standing ∧
    (∃ r, f.board.find? "i1" = some r ∧ RoundTrips Report.decoder Report.toJson r) ∧
    (f.perform probe (.purge "i1")).1.RoundTrips ∧
    RoundTrips MetadataSummary.decoder MetadataSummary.toJson
      (f.catalog.summary probe "Orders") := by
  intro orders probe acts f standing
  have htimes : ∀ a ∈ acts, a.1.Writable := by
    simp [acts, probe, Timestamp.Writable, Timestamp.second]
  have hread : (Json.decode Standing.decoder (Json.inputOfText
      "[\"Healthy\",0,1,\"2024-02-29 12:00:60.5\",\"http\",null]")).toOption = some standing := by
    decide +kernel
  have hprobe : probe.Writable := by simp [probe, Timestamp.Writable, Timestamp.second]
  have hshown : (f.board.find? "i1").isSome := by decide
  obtain ⟨r, hr⟩ := Option.isSome_iff_exists.mp hshown
  have hcount : (f.catalog.ofService "Orders").length < Nat.pow 2 64 := by
    have hone : (f.catalog.ofService "Orders").length = 1 := by decide
    rw [hone]
    decide
  obtain ⟨⟨-, -, hstanding, -⟩, hheld, hnext⟩ :=
    values_survive_the_wire ⟨1, 1⟩ false acts htimes
  have hagain := hstanding _ standing (Json.eq_ok_of_toOption hread)
  exact ⟨htimes, hread, hagain, ⟨r, hr, (hheld "i1").2.2 r hr⟩,
    (hnext probe hprobe).1 (.purge "i1"), (hnext probe hprobe).2 "Orders" hcount⟩

end Monitor

end ServiceHealth
