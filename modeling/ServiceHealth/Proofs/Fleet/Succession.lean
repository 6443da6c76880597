import ServiceHealth.Fleet.Watch
import ServiceHealth.Proofs.Fleet.Ledger

/-!
# The succession of rounds

The log of a watch is what happens to the probes of all its rounds, with the begin of each round and
the request to stop. All rounds are kept apart by one invariant: under every id the probes that
ended, followed by the one that is under way, are those that were sent.
-/
namespace ServiceHealth.Watch

inductive Event where
  | began
  | asked
  | probe (e : Round.Event)

def Event.probe? : Event → Option Round.Event
  | .probe e => some e
  | _ => none

def probes (log : List Event) : List Round.Event := log.filterMap Event.probe?

def sent (log : List Event) : List Instance := Round.sent (probes log)

def ended (log : List Event) : List Instance := Round.ended (probes log)

/-- Those of some instances that have an id. -/
def under (id : String) (l : List Instance) : List Instance := l.filter (·.serviceId = id)

def Phase.flying : Phase → List Instance
  | .probing r => r.flying
  | _ => []

/-- The instances that are still to be probed in the round. -/
def Phase.waiting : Phase → List Instance
  | .probing r => r.waiting
  | _ => []

def event? (pool : Nat) (now : Timestamp) (w : Watch) : Step → Option Event
  | .begin => some .began
  | .round s =>
      match w.phase with
      | .probing r => (r.event? pool now w.fleet s).map .probe
      | _ => none
  | .finish _ => none
  | .ask => some .asked
  | .leave => none
  | .call _ => none

def log (pool : Nat) : List (Timestamp × Step) → Watch → List Event
  | [], _ => []
  | (now, s) :: rest, w =>
      match w.step? pool now s with
      | some next => (w.event? pool now s).toList ++ log pool rest next
      | none => []

@[simp] theorem probes_append (first second : List Event) :
    probes (first ++ second) = probes first ++ probes second := List.filterMap_append

@[simp] theorem sent_append (first second : List Event) :
    sent (first ++ second) = sent first ++ sent second := by
  simp [sent]

@[simp] theorem ended_append (first second : List Event) :
    ended (first ++ second) = ended first ++ ended second := by
  simp [ended]

@[simp] theorem under_append (id : String) (first second : List Instance) :
    under id (first ++ second) = under id first ++ under id second := List.filter_append _ _

theorem under_cons (id : String) (i : Instance) (rest : List Instance) :
    under id (i :: rest) = under id [i] ++ under id rest := under_append id [i] rest

@[simp] theorem sent_asked : sent [.asked] = [] := rfl

theorem probes_probe (e? : Option Round.Event) :
    probes (e?.map Event.probe).toList = e?.toList := by
  cases e? <;> rfl

theorem sent_probe (e? : Option Round.Event) :
    sent (e?.map Event.probe).toList = Round.sent e?.toList := by
  rw [sent, probes_probe]

theorem ended_probe (e? : Option Round.Event) :
    ended (e?.map Event.probe).toList = Round.ended e?.toList := by
  rw [ended, probes_probe]

/-- Only a step that loses a probe means a loss. -/
theorem countP_isLoss_event? {pool : Nat} {now : Timestamp} {w : Watch} {s : Step}
    (hkept : ∀ id, s ≠ .round (.lose id)) :
    (probes (w.event? pool now s).toList).countP Round.Event.isLoss = 0 := by
  cases s with
  | round s =>
    have hs (id : String) : s ≠ .lose id := fun hs => hkept id (congrArg _ hs)
    simp only [event?]
    split
    · rw [probes_probe, Round.countP_isLoss_event? hs]
    · rfl
  | begin | finish | ask | leave | call => rfl

/-- All that a step can do to a watch, with the event that it means. -/
inductive Move (pool : Nat) (w : Watch) : Option Event → Watch → Prop where
  | begin (resting : w.phase = .resting) :
      Move pool w (some .began) { w with phase := .probing (.ofFleet w.fleet) }
  | round (r next : Round) (e? : Option Round.Event) (f : Fleet) (probing : w.phase = .probing r)
      (move : Round.Move pool r e? next) (heeded : w.stopping → Round.sent e?.toList = [])
      (fleet : f = w.fleet ∨ ∃ now c, f = (w.fleet.perform now c).2) :
      Move pool w (e?.map .probe) { w with fleet := f, phase := .probing next }
  | finish (r : Round) (duration : Span) (probing : w.phase = .probing r) (isOver : r.isOver) :
      Move pool w none { w with
        fleet := Round.record duration w.fleet
        phase := if r.summary.cancelled then .ended else .resting }
  | ask : Move pool w (some .asked) { w with stopping := true }
  | leave (resting : w.phase = .resting) : Move pool w none { w with phase := .ended }
  | call (now : Timestamp) (c : Fleet.Call) :
      Move pool w none { w with fleet := (w.fleet.perform now c).2 }

section Move

variable {pool : Nat} {w next : Watch} {e? : Option Event}

/-- A round begins when the watch rests. -/
theorem Move.resting (h : Move pool w (some .began) next) : w.phase = .resting := by
  generalize he : some Event.began = e? at h
  cases h with
  | begin hresting => exact hresting
  | round r round e? => cases e? <;> cases he
  | finish | ask | leave | call => cases he

theorem Move.stopping (h : Move pool w e? next) (hstop : w.stopping ∨ e? = some .asked) :
    next.stopping := by
  cases h with
  | ask => rfl
  | begin | finish | leave | call => exact hstop.resolve_right (by simp)
  | round r round e? =>
    refine hstop.resolve_right fun he => ?_
    cases e? <;> cases he

/-- Once it was asked to stop a watch sends no probe. -/
theorem Move.heeded (h : Move pool w e? next) (hstopping : w.stopping) : sent e?.toList = [] := by
  cases h with
  | round r round e? f hprobing hround hheeded => exact (sent_probe e?).trans (hheeded hstopping)
  | begin | finish | ask | leave | call => rfl

end Move

/-- A step of a round sends a probe only if it dispatches one. -/
theorem sent_of_allows {pool : Nat} {now : Timestamp} {r : Round} {f : Fleet} {s : Round.Step}
    (h : allows true s) : Round.sent (r.event? pool now f s).toList = [] := by
  cases s with
  | dispatch => contradiction
  | answer id outcome =>
    simp only [Round.event?]
    cases r.flying.find? (·.serviceId = id) <;> rfl
  | lose id =>
    simp only [Round.event?]
    cases r.flying.find? (·.serviceId = id) <;> rfl
  | cancel => rfl
  | call c => rfl

/-- A step that is possible is a move. -/
theorem move_of_step {pool : Nat} {now : Timestamp} {w next : Watch} {s : Step}
    (h : w.step? pool now s = some next) : Move pool w (w.event? pool now s) next := by
  cases s with
  | begin =>
    simp only [step?] at h
    split at h
    · rename_i hphase
      split at h
      · contradiction
      · exact Option.some.inj h ▸ .begin hphase
    · contradiction
  | round s =>
    simp only [step?] at h
    split at h
    · rename_i r hphase
      split at h
      · rename_i hallows
        obtain ⟨⟨r', f⟩, hstep, rfl⟩ := Option.map_eq_some_iff.mp h
        have hevent : w.event? pool now (.round s) =
            (r.event? pool now w.fleet s).map .probe := by simp only [event?, hphase]
        rw [hevent]
        refine .round r r' _ f hphase (Round.move_of_step hstep) (fun hstopping => ?_) ?_
        · exact sent_of_allows (hstopping ▸ hallows)
        · exact (Round.fleet_of_step hstep).imp_right fun hcall => ⟨now, hcall⟩
      · contradiction
    · contradiction
  | finish duration =>
    simp only [step?] at h
    split at h
    · rename_i r hphase
      split at h
      · rename_i hover
        exact Option.some.inj h ▸ .finish r duration hphase hover
      · contradiction
    · contradiction
  | ask => exact Option.some.inj h ▸ .ask
  | leave =>
    simp only [step?] at h
    split at h
    · rename_i hphase
      split at h
      · exact Option.some.inj h ▸ .leave hphase
      · contradiction
    · contradiction
  | call c => exact Option.some.inj h ▸ .call now c

/-- What holds at the start of a log and is kept by every move holds of every run. -/
theorem log_induction {pool : Nat} {P : Watch → List Event → Prop}
    (move : ∀ w e? next past, P w past → Move pool w e? next → P next (past ++ e?.toList))
    {steps : List (Timestamp × Step)} {w last : Watch} {past : List Event} (start : P w past)
    (h : steps? pool steps w = some last) : P last (past ++ log pool steps w) := by
  induction steps generalizing w past with
  | nil =>
    obtain rfl := Option.some.inj h
    simpa [log] using start
  | cons step rest ih =>
    obtain ⟨now, s⟩ := step
    obtain ⟨next, hstep, hrest⟩ := Option.bind_eq_some_iff.mp h
    rw [log, hstep, ← List.append_assoc]
    exact ih (move w _ next past start (move_of_step hstep)) hrest

/-- Taking the first instance with an id away leaves the order under every id. -/
theorem under_eraseP {l : List Instance} {i : Instance}
    (h : l.find? (·.serviceId = i.serviceId) = some i) (id : String) :
    under id [i] ++ under id (l.eraseP (·.serviceId = i.serviceId)) = under id l := by
  induction l with
  | nil => contradiction
  | cons j rest ih =>
    rw [List.find?_cons] at h
    split at h
    · obtain rfl : j = i := Option.some.inj h
      rw [List.eraseP_cons_of_pos (by simp), ← under_cons]
    · rename_i hj
      rw [List.eraseP_cons_of_neg (by simpa using hj), under_cons id j, under_cons id j rest,
        ← ih h]
      by_cases hid : j.serviceId = id
      · have hi : i.serviceId ≠ id := fun hi => by simp [hid, hi] at hj
        simp [under, hi]
      · simp [under, hid]

/-- What was under way before a move or is sent by it either ends by it or is under way after. -/
theorem under_round {pool : Nat} {r next : Round} {e? : Option Round.Event}
    (h : Round.Move pool r e? next) (id : String) :
    under id (Round.ended e?.toList) ++ under id next.flying =
      under id r.flying ++ under id (Round.sent e?.toList) := by
  cases h with
  | send i rest hnext hspace => exact under_append id r.flying [i]
  | answer i active applied hflying htimely =>
    exact (under_eraseP hflying id).trans (List.append_nil _).symm
  | lose i hflying => exact (under_eraseP hflying id).trans (List.append_nil _).symm
  | cancel =>
    rw [Round.flying_cancel]
    exact (List.append_nil _).symm
  | stay => exact (List.append_nil _).symm

/-- A round probes nothing but what it had to probe. -/
theorem sublist_round {pool : Nat} {r next : Round} {e? : Option Round.Event}
    (h : Round.Move pool r e? next) :
    (next.flying ++ next.waiting).Sublist (r.flying ++ r.waiting) := by
  cases h with
  | send i rest hnext hspace => simp [hnext]
  | answer i active applied hflying htimely => exact List.eraseP_sublist.append_right _
  | lose i hflying => exact List.eraseP_sublist.append_right _
  | cancel =>
    rw [Round.flying_cancel, Round.waiting_cancel]
    exact (List.Sublist.refl _).append (List.nil_sublist _)
  | stay => exact List.Sublist.refl _

/-- A round has no id on its list twice. -/
theorem distinct_active {c : Catalog} (hc : c.Keyed) :
    c.active.Pairwise (·.serviceId ≠ ·.serviceId) :=
  (Catalog.active_ascending hc).imp fun {i j} hlt heq => by
    rw [heq] at hlt
    exact String.lt_irrefl j.serviceId hlt

section Move

variable {pool : Nat} {w next : Watch} {e? : Option Event}

theorem Move.keyed (h : Move pool w e? next) (hkeyed : w.fleet.catalog.Keyed) :
    next.fleet.catalog.Keyed := by
  cases h with
  | round r round e? f hprobing hround hheeded hfleet =>
    obtain rfl | ⟨now, c, rfl⟩ := hfleet
    · exact hkeyed
    · exact Fleet.keyed_perform hkeyed now c
  | finish r duration hprobing hover =>
    rw [Round.record, Fleet.catalog_meter]
    exact hkeyed
  | call now c => exact Fleet.keyed_perform hkeyed now c
  | begin | ask | leave => exact hkeyed

theorem Move.distinct (h : Move pool w e? next) (hkeyed : w.fleet.catalog.Keyed)
    (hdistinct : (w.phase.flying ++ w.phase.waiting).Pairwise (·.serviceId ≠ ·.serviceId)) :
    (next.phase.flying ++ next.phase.waiting).Pairwise (·.serviceId ≠ ·.serviceId) := by
  cases h with
  | begin hresting => exact distinct_active hkeyed
  | round r round e? f hprobing hround hheeded hfleet =>
    rw [hprobing] at hdistinct
    exact hdistinct.sublist (sublist_round hround)
  | finish r duration hprobing hover =>
    dsimp only
    split <;> exact .nil
  | leave hresting => exact .nil
  | ask | call => exact hdistinct

/-- What was under way before a move or is sent by it either ends by it or is under way after. -/
theorem Move.under (h : Move pool w e? next) (id : String) :
    under id (ended e?.toList) ++ Watch.under id next.phase.flying =
      Watch.under id w.phase.flying ++ Watch.under id (sent e?.toList) := by
  cases h with
  | begin hresting =>
    rw [hresting]
    rfl
  | round r round e? f hprobing hround hheeded hfleet =>
    rw [hprobing, ended_probe, sent_probe]
    exact under_round hround id
  | finish r duration hprobing hover =>
    have hflying := (Round.isOver_iff.mp hover).2
    dsimp only
    rw [hprobing, Phase.flying, hflying]
    split <;> rfl
  | leave hresting =>
    rw [hresting]
    rfl
  | ask | call => exact (List.append_nil _).symm

end Move

/-- Lists that agree under every id have the same elements. -/
theorem perm_of_under {first second : List Instance}
    (h : ∀ id, under id first = under id second) : first.Perm second := by
  rw [List.perm_iff_count]
  intro i
  have hcount (l : List Instance) : (under i.serviceId l).count i = l.count i :=
    List.count_filter (by simp)
  rw [← hcount first, h, hcount]

/-- A log in which the rounds are kept apart, up to a watch as it is then. No two probes of a round
go to the same id, and under an id probes end in the order in which they were sent. All probes sent
before a round had ended when it began, and nothing was sent after the watch was asked to stop. -/
structure Apart (w : Watch) (log : List Event) : Prop where
  keyed : w.fleet.catalog.Keyed
  distinct : (w.phase.flying ++ w.phase.waiting).Pairwise (·.serviceId ≠ ·.serviceId)
  inOrder : ∀ id, under id (ended log) ++ under id w.phase.flying = under id (sent log)
  settled : ∀ before, before ++ [.began] <+: log → (ended before).Perm (sent before)
  asked : .asked ∈ log → w.stopping
  heeded : ∀ before, before ++ [.asked] <+: log → sent log = sent before

theorem apart_start {f : Fleet} (hf : f.catalog.Keyed) : Apart (start f) [] where
  keyed := hf
  distinct := .nil
  inOrder _ := rfl
  settled before h := by simp at h
  asked h := by simp at h
  heeded before h := by simp at h

variable {pool : Nat} {w : Watch} {log : List Event}

theorem Apart.perm (h : Apart w log) (hflying : w.phase.flying = []) :
    (ended log).Perm (sent log) := by
  refine perm_of_under fun id => ?_
  simpa [hflying, under] using h.inOrder id

/-- A prefix of a log that went on ends with the last event or was there before. -/
theorem prefix_concat {before past : List Event} {e : Event} {e? : Option Event}
    (h : before ++ [e] <+: past ++ e?.toList) :
    before ++ [e] <+: past ∨ e? = some e ∧ before = past := by
  cases e? with
  | none => exact .inl (by simpa using h)
  | some last =>
    refine (List.prefix_concat_iff.mp h).symm.imp_right fun heq => ?_
    obtain ⟨rfl, rfl⟩ := List.append_singleton_inj.mp heq
    exact ⟨rfl, rfl⟩

/-- Every move keeps the rounds apart. -/
theorem Apart.move (h : Apart w log) {e? : Option Event} {next : Watch}
    (hmove : Move pool w e? next) : Apart next (log ++ e?.toList) := by
  constructor
  case keyed => exact hmove.keyed h.keyed
  case distinct => exact hmove.distinct h.keyed h.distinct
  case inOrder =>
    intro id
    calc under id (ended (log ++ e?.toList)) ++ under id next.phase.flying
        = under id (ended log) ++ (under id (ended e?.toList) ++ under id next.phase.flying) := by
          rw [ended_append, under_append, List.append_assoc]
      _ = under id (ended log) ++ under id w.phase.flying ++ under id (sent e?.toList) := by
          rw [hmove.under, List.append_assoc]
      _ = under id (sent (log ++ e?.toList)) := by
          rw [h.inOrder, sent_append, under_append]
  case settled =>
    intro before hprefix
    obtain hpast | ⟨rfl, rfl⟩ := prefix_concat hprefix
    · exact h.settled before hpast
    · exact h.perm (by rw [hmove.resting]; rfl)
  case asked =>
    intro hmem
    obtain hpast | hnew := List.mem_append.mp hmem
    · exact hmove.stopping (.inl (h.asked hpast))
    · exact hmove.stopping (.inr (Option.mem_toList.mp hnew))
  case heeded =>
    intro before hprefix
    obtain hpast | ⟨rfl, rfl⟩ := prefix_concat hprefix
    · have hstopping := h.asked (hpast.subset (List.mem_append_right before List.mem_cons_self))
      rw [sent_append, hmove.heeded hstopping, List.append_nil, h.heeded before hpast]
    · rw [sent_append, Option.toList_some, sent_asked, List.append_nil]

theorem flying_of_isOver (hover : w.isOver) : w.phase.flying = [] := by
  unfold isOver at hover
  split at hover
  · rename_i hphase
    rw [hphase]
    rfl
  · contradiction

theorem apart_of_steps {f : Fleet} (hf : f.catalog.Keyed) {steps : List (Timestamp × Step)}
    (h : steps? pool steps (start f) = some w) : Apart w (Watch.log pool steps (start f)) :=
  log_induction (fun _ _ _ _ hapart hmove => hapart.move hmove) (apart_start hf) h

/-- Under an id at most one probe is under way. -/
theorem Apart.length_under_le (h : Apart w log) (id : String) :
    (under id w.phase.flying).length ≤ 1 := by
  have hdistinct := (List.pairwise_append.mp h.distinct).1.filter (·.serviceId = id)
  cases hunder : under id w.phase.flying with
  | nil => simp
  | cons i rest =>
    cases rest with
    | nil => simp
    | cons j rest =>
      have hid (k : Instance) (hk : k ∈ under id w.phase.flying) : k.serviceId = id := by
        simpa using (List.mem_filter.mp hk).2
      have hi := hid i (by simp [hunder])
      have hj := hid j (by simp [hunder])
      rw [show w.phase.flying.filter (·.serviceId = id) = i :: j :: rest from hunder] at hdistinct
      exact absurd (hi.trans hj.symm) (List.rel_of_pairwise_cons hdistinct List.mem_cons_self)

/-- Without steps that lose a probe every probe that ended was answered. -/
theorem countP_isLoss_log {steps : List (Timestamp × Step)}
    (hkept : ∀ s ∈ steps, ∀ id, s.2 ≠ .round (.lose id)) (w : Watch) :
    (probes (Watch.log pool steps w)).countP Round.Event.isLoss = 0 := by
  induction steps generalizing w with
  | nil => rfl
  | cons step rest ih =>
    obtain ⟨hstep, hrest⟩ := List.forall_mem_cons.mp hkept
    rw [Watch.log]
    split
    · rw [probes_append, List.countP_append, countP_isLoss_event? hstep, ih hrest]
    · rfl

/-- Rounds follow one another. At every moment of a watch that runs beside any calls, with any
answers in any order and rounds that are due at any time: all probes that were sent before a round
began had ended when it began; under every id the probes that ended are the first of those that
were sent, in their order, and at most one more is under way; and no probe was sent after the watch
was asked to stop. When the watch is over, all probes that were sent have ended. Unless it was lost,
a probe that ended was answered while its instance was there or after it had left. -/
theorem rounds_follow_one_another (t : Thresholds) (metered : Bool)
    (calls : List (Timestamp × Fleet.Call)) (pool : Nat) (steps : List (Timestamp × Step))
    (w : Watch) (h : steps? pool steps (start ((Fleet.empty t metered).run calls)) = some w) :
    let log := Watch.log pool steps (start ((Fleet.empty t metered).run calls))
    (∀ before, before ++ [.began] <+: log → (ended before).Perm (sent before)) ∧
    (∀ id, under id (sent log) = under id (ended log) ++ under id w.phase.flying ∧
      (under id w.phase.flying).length ≤ 1) ∧
    (∀ before, before ++ [.asked] <+: log → sent log = sent before) ∧
    (w.isOver → w.phase.flying = [] ∧ (ended log).Perm (sent log)) ∧
    ((∀ s ∈ steps, ∀ id, s.2 ≠ .round (.lose id)) → (ended log).length =
      (probes log).countP Round.Event.isTimely + (probes log).countP Round.Event.isLate) := by
  intro log
  have hapart : Apart w log := apart_of_steps (Fleet.keyed_run t metered calls) h
  refine ⟨hapart.settled, fun id => ⟨(hapart.inOrder id).symm, hapart.length_under_le id⟩,
    hapart.heeded, fun hover => ?_, fun hkept => ?_⟩
  · have hflying := flying_of_isOver hover
    exact ⟨hflying, hapart.perm hflying⟩
  · have hended := Round.length_ended (probes log)
    rwa [countP_isLoss_log hkept] at hended

/-- A watch that is asked to stop in its second round, with an instance that leaves while it is
probed. -/
theorem rounds_follow_one_another_until_asked :
    let orders : Registration := ⟨"i1", "orders", "10.0.0.5", 8080, .http, .empty⟩
    let calls : List (Timestamp × Fleet.Call) := [(⟨0⟩, .register orders),
      (⟨0⟩, .register { orders with serviceId := "i2" })]
    let f := (Fleet.empty ⟨1, 1⟩ false).run calls
    let steps : List (Timestamp × Step) := [(⟨1⟩, .begin), (⟨1⟩, .round .dispatch),
      (⟨1⟩, .round .dispatch), (⟨2⟩, .round (.answer "i2" (.timedOut ⟨5⟩))),
      (⟨3⟩, .round (.answer "i1" (.timedOut ⟨5⟩))), (⟨3⟩, .finish ⟨2⟩), (⟨6⟩, .begin),
      (⟨6⟩, .round .dispatch), (⟨7⟩, .ask), (⟨7⟩, .round .cancel), (⟨8⟩, .call (.deregister "i1")),
      (⟨9⟩, .round (.answer "i1" (.succeeded ⟨5⟩ "HTTP 200"))), (⟨9⟩, .finish ⟨3⟩)]
    let log := Watch.log 2 steps (start f)
    ∃ w, steps? 2 steps (start f) = some w ∧ w.isOver ∧
      (sent log).map (·.serviceId) = ["i1", "i2", "i1"] ∧ (ended log).Perm (sent log) ∧
      (probes log).countP Round.Event.isTimely + (probes log).countP Round.Event.isLate = 3 := by
  intro orders calls f steps log
  have hrun : (steps? 2 steps (start f)).map isOver = some true := by decide
  have hsent : (sent log).map (·.serviceId) = ["i1", "i2", "i1"] := by decide
  obtain ⟨w, hsteps, hover⟩ := Option.map_eq_some_iff.mp hrun
  obtain ⟨-, -, -, hdone, hanswered⟩ :=
    rounds_follow_one_another ⟨1, 1⟩ false calls 2 steps w hsteps
  have hended : (ended log).Perm (sent log) := (hdone hover).2
  have hkept : ∀ s ∈ steps, ∀ id, s.2 ≠ .round (.lose id) := by simp [steps]
  have hlength : (sent log).length = 3 := by simpa using congrArg List.length hsent
  refine ⟨w, hsteps, hover, hsent, hended, ?_⟩
  rw [← hanswered hkept, hended.length_eq, hlength]

end ServiceHealth.Watch
