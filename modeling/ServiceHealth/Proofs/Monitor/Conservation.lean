import ServiceHealth.Proofs.Fleet.Stores
import ServiceHealth.Proofs.Monitor.Basic

/-!
# Counts are conserved

The counters of probes, of late results, of changes of status and of rounds are taken at different
points of a call, and under names from different records. Each of them still says how often the
thing that it counts has happened. Counts are words of sixty-four bits, so all of this is meant
modulo the size of a word.
-/
namespace ServiceHealth

theorem Probe.Protocol.name_injective : Function.Injective Protocol.name := by
  intro p q h
  cases p <;> cases q <;> simp_all [name]

theorem Probe.Kind.name_injective : Function.Injective Kind.name := by
  intro k l h
  cases k <;> cases l <;> simp_all [name]

namespace Meter

def sumWhere (p : Labels → Bool) (entries : List (Labels × UInt64)) : UInt64 :=
  (entries.filter fun e => p e.1).foldr (fun e sum => e.2 + sum) 0

/-- The sum of the counts whose labels satisfy a test. -/
def Family.total (f : Family UInt64) (p : Labels → Bool) : UInt64 := sumWhere p f.entries

variable (p : Labels → Bool) (labels : Labels)

theorem sumWhere_cons (e : Labels × UInt64) (rest : List (Labels × UInt64)) :
    sumWhere p (e :: rest) = (if p e.1 then e.2 else 0) + sumWhere p rest := by
  by_cases h : p e.1
  · simp [sumWhere, h]
  · simp [sumWhere, h]

/-- What stood under the labels, if anything, goes up by one, and nothing else changes. -/
theorem sumWhere_insertEntry {entries : List (Labels × UInt64)}
    (h : entries.Pairwise fun a b => compare a.1 b.1 = .lt) :
    sumWhere p (Table.insertEntry labels
      (((entries.find? fun e => compare labels e.1 == .eq).map Prod.snd).getD 0 + 1) entries) =
        sumWhere p entries + if p labels then 1 else 0 := by
  induction entries with
  | nil =>
    simp only [Table.insertEntry, sumWhere_cons]
    simp [sumWhere]
  | cons e rest ih =>
    obtain ⟨hlater, hrest⟩ := List.pairwise_cons.mp h
    simp only [Table.insertEntry, List.find?_cons]
    cases hcompare : compare labels e.1 with
    | lt =>
      have hnone : (rest.find? fun e => compare labels e.1 == .eq) = none := by
        rw [List.find?_eq_none]
        intro later hmem
        have hlt := Std.TransCmp.lt_trans hcompare (hlater later hmem)
        simp [hlt]
      have hbefore : (Ordering.lt == Ordering.eq) = false := rfl
      simp only [hbefore, hnone, Option.map_none, Option.getD_none, UInt64.zero_add, sumWhere_cons]
      ac_rfl
    | eq =>
      have hsame : labels = e.1 := Std.LawfulEqCmp.eq_of_compare hcompare
      simp only [sumWhere_cons, hsame, beq_self_eq_true, Option.map_some, Option.getD_some]
      by_cases hp : p e.1
      · simp only [hp, if_true]
        ac_rfl
      · simp [hp]
    | gt =>
      simp only [sumWhere_cons]
      rw [UInt64.add_assoc, ← ih hrest]
      rfl

theorem Family.total_increment (f : Family UInt64) :
    (f.increment labels).total p = f.total p + if p labels then 1 else 0 :=
  sumWhere_insertEntry p labels f.sorted

theorem Family.getD_increment (f : Family UInt64) (j : Labels) :
    ((f.increment labels).get? j).getD 0 =
      (f.get? j).getD 0 + if labels = j then 1 else 0 := by
  rw [get?_increment]
  by_cases h : j = labels
  · simp [h]
  · simp [h, Ne.symm h]

/-- Every observation is in the total of its histogram. -/
theorem Family.total_observe (f : Family Histogram) (bounds : List Float) (x : Float) (j : Labels) :
    (((f.observe bounds labels x).get? j).map Histogram.total).getD 0 =
      ((f.get? j).map Histogram.total).getD 0 + if labels = j then 1 else 0 := by
  rw [observe, Table.get?_insert]
  by_cases h : j = labels
  · subst h
    cases f.get? j with
    | none => simp [Histogram.observe, Histogram.empty]
    | some histogram => simp [Histogram.observe]
  · simp [h, Ne.symm h]

end Meter

/-- The labels under which the probe of an outcome is counted. -/
def Delivery.labels (d : Delivery) : Meter.Labels :=
  [d.probed.serviceName, d.probed.protocol.name, d.outcome.kind.name]

/-- The change of status that an outcome caused, and the name that its instance had then. -/
def Delivery.turn? (d : Delivery) : Option (String × Transition) :=
  d.record.bind fun i => (d.applied.bind Applied.transition).map (i.serviceName, ·)

def Delivery.isTurnOf (name : String) (d : Delivery) : Bool :=
  d.record.any (·.serviceName = name) && (d.applied.bind Applied.transition).isSome

def Delivery.ticks (d : Delivery) : Meters.Ticks :=
  ⟨some (d.probed, d.outcome), d.applied.isNone, d.turn?⟩

theorem Delivery.isTurnOf_eq (name : String) (d : Delivery) :
    d.isTurnOf name = d.turn?.any (·.1 = name) := by
  unfold isTurnOf turn?
  cases d.record with
  | none => rfl
  | some i => cases d.applied.bind Applied.transition <;> simp

namespace Fleet

variable {f : Fleet}

/-- What an outcome finds under its id decides on what is counted of it. -/
theorem ticks_deliver (hf : f.catalog.Keyed) (now : Timestamp) (probed : Instance)
    (outcome : Probe.Outcome) :
    (f.entry probed.serviceId).ticks f.standings.thresholds now (.applyOutcome probed outcome) =
      (f.deliver now probed outcome).ticks := by
  have hanswer := (applyOutcome_entry now probed.serviceId hf probed outcome).1
  have hrecord : (f.entry probed.serviceId).record = f.catalog.find? probed.serviceId := rfl
  simp only [Entry.ticks, Call.outcome?, Delivery.ticks, Delivery.turn?, deliver, hanswer,
    Entry.turn, Entry.isActive_eq, Entry.applyOutcome, hrecord]
  cases hcurrent : (f.catalog.find? probed.serviceId).filter Instance.isActive with
  | none => simp
  | some current =>
    have hfind := Option.eq_some_of_filter_eq_some hcurrent
    simp [hfind]

/-- An outcome counts as its delivery says. -/
theorem ungauged_applyOutcome (hf : f.catalog.Keyed) (now : Timestamp) (probed : Instance)
    (outcome : Probe.Outcome) : (f.applyOutcome now probed outcome).2.meters.map Meters.ungauged =
      f.meters.map fun m => (f.deliver now probed outcome).ticks.apply m.ungauged := by
  have hmeters := perform_meters hf now (.applyOutcome probed outcome)
  rw [show (f.applyOutcome now probed outcome).2.meters = _ from hmeters, Option.map_map,
    ← ticks_deliver hf]
  exact congrArg (Option.map · f.meters) (funext fun m => Entry.count_ungauged _ now _ _ m)

/-- A call that delivers no outcome counts nothing. -/
theorem ungauged_perform (hf : f.catalog.Keyed) (now : Timestamp) {c : Call}
    (hsilent : c.outcome? = none) :
    (f.perform now c).2.meters.map Meters.ungauged = f.meters.map Meters.ungauged := by
  rw [perform_meters hf, Option.map_map]
  refine congrArg (Option.map · f.meters) (funext fun m => ?_)
  have hcount := Entry.count_ungauged f.standings.thresholds now (f.entry c.subject) c m
  simpa [Entry.ticks, hsilent] using hcount

end Fleet

namespace Monitor

/-- How many of the outcomes in a log satisfy a test. -/
def countOf (p : Delivery → Bool) (log : List Event) : UInt64 :=
  .ofNat ((log.filterMap Event.delivery?).countP p)

variable (p : Delivery → Bool) (log : List Event)

theorem countOf_delivered (d : Delivery) :
    countOf p (log ++ [.delivered d]) = countOf p log + if p d then 1 else 0 := by
  by_cases h : p d
  · simp [countOf, Event.delivery?, h, UInt64.ofNat_add]
  · simp [countOf, Event.delivery?, h]

theorem countOf_finished : countOf p (log ++ [.finished]) = countOf p log := by
  rw [countOf, List.filterMap_append]
  exact congrArg (UInt64.ofNat ∘ List.countP p) (List.append_nil _)

/-- The counters say how often things have happened. -/
structure Accounts (log : List Event) (m : Meters) : Prop where
  probes : ∀ labels, (m.probes.get? labels).getD 0 = countOf (·.labels = labels) log
  allProbes : m.probes.total (fun _ => true) = countOf (fun _ => true) log
  latency : ∀ name, ((m.probeLatency.get? [name]).map Meter.Histogram.total).getD 0 =
    m.probes.total (·[1]? = some name)
  discarded : m.probesDiscarded = countOf (·.applied.isNone) log
  turns : ∀ name, m.transitions.total (·.head? = some name) = countOf (·.isTurnOf name) log
  rounds : m.rounds = .ofNat (log.countP Event.isFinish)

variable {log} {m : Meters}

theorem accounts_initial : Accounts [] Meters.initial where
  probes _ := rfl
  allProbes := rfl
  latency _ := rfl
  discarded := rfl
  turns _ := rfl
  rounds := rfl

/-- Gauges of instances do not count. -/
theorem Accounts.of_ungauged (h : Accounts log m.ungauged) : Accounts log m :=
  ⟨h.probes, h.allProbes, h.latency, h.discarded, h.turns, h.rounds⟩

theorem Accounts.ungauged (h : Accounts log m) : Accounts log m.ungauged :=
  ⟨h.probes, h.allProbes, h.latency, h.discarded, h.turns, h.rounds⟩

theorem Accounts.deliver (h : Accounts log m) (d : Delivery) :
    Accounts (log ++ [.delivered d]) (d.ticks.apply m) where
  probes labels := by
    rw [countOf_delivered, ← h.probes]
    simp only [decide_eq_true_eq]
    exact Meter.Family.getD_increment d.labels m.probes labels
  allProbes := by
    rw [countOf_delivered, ← h.allProbes]
    exact Meter.Family.total_increment _ d.labels m.probes
  latency name := by
    have hobserved := Meter.Family.total_observe [d.probed.protocol.name] m.probeLatency
      (Meter.bounds 15) d.outcome.latency.seconds [name]
    have hcounted := Meter.Family.total_increment (·[1]? = some name) d.labels m.probes
    rw [h.latency] at hobserved
    refine hobserved.trans (Eq.trans ?_ hcounted.symm)
    simp [Delivery.labels]
  discarded := by
    rw [countOf_delivered, ← h.discarded]
    rfl
  turns name := by
    have hcounted : (m.transitions.incrementSome d.ticks.turnLabels).total (·.head? = some name) =
        m.transitions.total (·.head? = some name) + if d.turn?.any (·.1 = name) then 1 else 0 := by
      simp only [Delivery.ticks, Meters.Ticks.turnLabels]
      cases d.turn? with
      | none => simp [Meter.Family.incrementSome]
      | some change => simp [Meter.Family.incrementSome, Meter.Family.total_increment]
    rw [countOf_delivered, ← h.turns, Delivery.isTurnOf_eq]
    exact hcounted
  rounds := by
    have hsame :
        (log ++ [Event.delivered d]).countP Event.isFinish = log.countP Event.isFinish := by
      simp [Event.isFinish]
    rw [hsame]
    exact h.rounds

theorem Accounts.finish (h : Accounts log m) (duration : Span) (active : Nat) (tally : Tally) :
    Accounts (log ++ [.finished]) (((m.recordRound duration).setActive active).setTally tally) where
  probes labels := (h.probes labels).trans (countOf_finished _ log).symm
  allProbes := h.allProbes.trans (countOf_finished _ log).symm
  latency := h.latency
  discarded := h.discarded.trans (countOf_finished _ log).symm
  turns name := (h.turns name).trans (countOf_finished _ log).symm
  rounds := by
    have hmore :
        (log ++ [Event.finished]).countP Event.isFinish = log.countP Event.isFinish + 1 := by
      simp [Event.isFinish]
    rw [hmore, UInt64.ofNat_add, ← h.rounds]
    rfl

theorem Accounts.recordNotFound (h : Accounts log m) (label : String) :
    Accounts log (m.recordNotFound label) :=
  ⟨h.probes, h.allProbes, h.latency, h.discarded, h.turns, h.rounds⟩

/-- The fleet has meters, and they say how often things have happened. -/
def Audited (log : List Event) (f : Fleet) : Prop := ∃ m, f.meters = some m ∧ Accounts log m

/-- Meters that differ in gauges of instances only count the same. -/
theorem Audited.of_ungauged {f f' : Fleet} (h : Audited log f)
    (hsame : f'.meters.map Meters.ungauged = f.meters.map Meters.ungauged) : Audited log f' := by
  obtain ⟨m, hm, haccounts⟩ := h
  rw [hm] at hsame
  obtain ⟨m', hm', heq⟩ := Option.map_eq_some_iff.mp hsame
  have hungauged : Accounts log m'.ungauged := heq ▸ haccounts.ungauged
  exact ⟨m', hm', hungauged.of_ungauged⟩

/-- Whatever happens is counted. -/
theorem Effect.audited {now : Timestamp} {f f' : Fleet} {event : Option Event}
    (heffect : Effect now f event f') (hf : f.Sound) (h : Audited log f) :
    Audited (log ++ event.toList) f' := by
  cases heffect with
  | deliver probed outcome =>
    obtain ⟨m, hm, haccounts⟩ := h
    have hcounted := Fleet.ungauged_applyOutcome hf.keyed now probed outcome
    rw [hm, Option.map_some] at hcounted
    obtain ⟨m', hm', heq⟩ := Option.map_eq_some_iff.mp hcounted
    have hnext := haccounts.ungauged.deliver (f.deliver now probed outcome)
    exact ⟨m', hm', Accounts.of_ungauged (heq ▸ hnext)⟩
  | finish duration =>
    obtain ⟨m, hm, haccounts⟩ := h
    refine ⟨_, ?_, haccounts.finish duration f.catalog.activeCount f.standings.tally⟩
    rw [Round.record, Fleet.meters_meter, hm, Option.map_some]
  | aside change silent label fault =>
    have hchanged : Audited log (Api.changed now f change) := by
      cases change with
      | none => exact h
      | some c => exact h.of_ungauged (Fleet.ungauged_perform hf.keyed now (silent c rfl))
    rw [Option.toList_none, List.append_nil, Api.counted]
    by_cases hmissed : fault.any Error.isNotFound
    · obtain ⟨m, hm, haccounts⟩ := hchanged
      rw [if_pos hmissed]
      exact ⟨_, by rw [Fleet.meters_meter, hm, Option.map_some], haccounts.recordNotFound label⟩
    · rw [if_neg hmissed]
      exact hchanged

theorem audited_run (t : Thresholds) (acts : List (Timestamp × Act)) :
    Audited ((start t true).events acts) ((start t true).run acts).fleet := by
  have hstart : (start t true).fleet.Sound ∧ Audited [] (start t true).fleet :=
    ⟨sound_run t true [], .initial, rfl, accounts_initial⟩
  have hkept : ∀ past now f event f', True → (f.Sound ∧ Audited past f) →
      Effect now f event f' → f'.Sound ∧ Audited (past ++ event.toList) f' :=
    fun past now f event f' _ h heffect => ⟨heffect.sound h.1, heffect.audited h.1 h.2⟩
  exact (run_induction hkept hstart acts fun _ _ => trivial).2

/-- Probes are conserved. Take a fleet with meters, and any acts. The counter of a service name, a
protocol and a kind says how many outcomes of that kind were delivered that came from probes of
that name and that protocol. As many latencies are observed of a protocol as its counters say in
all. The number of discarded outcomes is that of the deliveries that were not applied; the changes
of status of a service are those that deliveries caused in instances which had its name at that
moment; and the number of rounds is that of rounds that were over. All probes that are counted, but
for the discarded ones, are the outcomes that were applied. -/
theorem probes_are_conserved (t : Thresholds) (acts : List (Timestamp × Act)) :
    let log := (start t true).deliveries acts
    ∃ m, ((start t true).run acts).fleet.meters = some m ∧
      (∀ name protocol kind,
        (m.probes.get? [name, Probe.Protocol.name protocol, Probe.Kind.name kind]).getD 0 =
          .ofNat (log.countP fun d => d.probed.serviceName = name ∧ d.probed.protocol = protocol ∧
            d.outcome.kind = kind)) ∧
      (∀ protocol : Probe.Protocol,
        ((m.probeLatency.get? [protocol.name]).map Meter.Histogram.total).getD 0 =
          m.probes.total (·[1]? = some protocol.name)) ∧
      m.probesDiscarded = .ofNat (log.countP (·.applied.isNone)) ∧
      (∀ name, m.transitions.total (·.head? = some name) =
        .ofNat (log.countP (·.isTurnOf name))) ∧
      m.rounds = .ofNat (((start t true).events acts).countP Event.isFinish) ∧
      m.probes.total (fun _ => true) - m.probesDiscarded =
        .ofNat (log.countP (·.applied.isSome)) := by
  intro log
  obtain ⟨m, hm, h⟩ := audited_run t acts
  refine ⟨m, hm, fun name protocol kind => ?_, fun protocol => h.latency protocol.name,
    h.discarded, h.turns, h.rounds, ?_⟩
  · rw [h.probes]
    have hsame (d : Delivery) : d.labels = [name, protocol.name, kind.name] ↔
        d.probed.serviceName = name ∧ d.probed.protocol = protocol ∧ d.outcome.kind = kind := by
      simp only [Delivery.labels, List.cons.injEq, and_true, Probe.Protocol.name_injective.eq_iff,
        Probe.Kind.name_injective.eq_iff]
    simp only [countOf, hsame]
    rfl
  · have hsplit : log.countP (fun _ => true) =
        log.countP (·.applied.isSome) + log.countP (·.applied.isNone) := by
      have hnone (d : Delivery) : decide (¬ d.applied.isSome = true) = d.applied.isNone := by
        cases d.applied <;> rfl
      rw [List.countP_true, List.length_eq_countP_add_countP (·.applied.isSome)]
      simp only [hnone]
    have hall : countOf (fun _ => true) ((start t true).events acts) =
        .ofNat (log.countP fun _ => true) := rfl
    rw [h.allProbes, h.discarded, hall, hsplit, UInt64.ofNat_add]
    exact UInt64.add_sub_cancel _ _

end Monitor

end ServiceHealth
