import ServiceHealth.Fleet.Round
import ServiceHealth.Proofs.Api.Requests
import ServiceHealth.Proofs.Fleet.Counting

/-!
# The monitor at work

Calls, requests and rounds of probes reach one fleet, in any order, and rounds may overlap with each
other and with anything else. All that an act can do to the fleet is said once, by `Effect`: an
outcome is delivered, a round that is over is recorded, or there is a call of another kind at most.
-/
namespace ServiceHealth

/-- An outcome that is handed to the fleet, with the record under its id at that moment and with
what became of it. -/
structure Delivery where
  probed : Instance
  outcome : Probe.Outcome
  record : Option Instance
  applied : Option Applied

/-- What an outcome meets when it is handed to the fleet. -/
def Fleet.deliver (now : Timestamp) (f : Fleet) (probed : Instance) (outcome : Probe.Outcome) :
    Delivery :=
  ⟨probed, outcome, f.catalog.find? probed.serviceId, (f.applyOutcome now probed outcome).1⟩

def Round.Step.call? (r : Round) : Round.Step → Option Fleet.Call
  | .answer id outcome =>
      (r.flying.find? (·.serviceId = id)).map fun i => .applyOutcome i outcome
  | .call c => some c
  | _ => none

/-- The fleet and the rounds that are under way. -/
structure Monitor where
  fleet : Fleet
  rounds : List Round

namespace Monitor

def start (t : Thresholds) (metered : Bool) : Monitor := ⟨.empty t metered, []⟩

/-- What can happen. A round under way is known by its place. -/
inductive Act where
  | call (c : Fleet.Call)
  | request (r : Api.Request)
  | begin
  | step (place pool : Nat) (s : Round.Step)
  | finish (place : Nat) (duration : Span)

/-- The monitor after an act. An act that is not possible changes nothing. -/
def act (now : Timestamp) (m : Monitor) : Act → Monitor
  | .call c => { m with fleet := (m.fleet.perform now c).2 }
  | .request r => { m with fleet := Api.receive now m.fleet (.request r) }
  | .begin => { m with rounds := m.rounds ++ [.ofFleet m.fleet] }
  | .step place pool s =>
      match m.rounds[place]?.bind fun r => r.step? pool now m.fleet s with
      | some (r, f) => ⟨f, m.rounds.set place r⟩
      | none => m
  | .finish place duration =>
      match m.rounds[place]?.filter Round.isOver with
      | some _ => ⟨Round.record duration m.fleet, m.rounds.eraseIdx place⟩
      | none => m

/-- The monitor after acts, each at its own time. -/
def run (m : Monitor) (acts : List (Timestamp × Act)) : Monitor :=
  acts.foldl (fun m a => m.act a.1 a.2) m

/-- What is worth counting. -/
inductive Event where
  | delivered (d : Delivery)
  | finished

def Event.delivery? : Event → Option Delivery
  | .delivered d => some d
  | .finished => none

def Event.isFinish : Event → Bool
  | .delivered _ => false
  | .finished => true

def eventOfCall? (now : Timestamp) (f : Fleet) (c : Fleet.Call) : Option Event :=
  c.outcome?.map fun o => .delivered (f.deliver now o.1 o.2)

def event? (now : Timestamp) (m : Monitor) : Act → Option Event
  | .call c => eventOfCall? now m.fleet c
  | .step place _ s =>
      (m.rounds[place]?.bind fun r => s.call? r).bind (eventOfCall? now m.fleet)
  | .finish place _ => (m.rounds[place]?.filter Round.isOver).map fun _ => .finished
  | _ => none

/-- What acts mean, in their order. -/
def events (m : Monitor) : List (Timestamp × Act) → List Event
  | [] => []
  | (now, a) :: rest => (m.event? now a).toList ++ (m.act now a).events rest

/-- The outcomes that acts deliver, in their order. -/
def deliveries (m : Monitor) (acts : List (Timestamp × Act)) : List Delivery :=
  (m.events acts).filterMap Event.delivery?

/-- All that an act can do to a fleet, with the event that it means. -/
inductive Effect (now : Timestamp) (f : Fleet) : Option Event → Fleet → Prop where
  | deliver (probed : Instance) (outcome : Probe.Outcome) :
      Effect now f (some (.delivered (f.deliver now probed outcome)))
        (f.applyOutcome now probed outcome).2
  | finish (duration : Span) : Effect now f (some .finished) (Round.record duration f)
  -- A call that delivers nothing, or none, and perhaps one more failed lookup.
  | aside (change : Option Fleet.Call) (silent : ∀ c ∈ change, c.outcome? = none) (label : String)
      (fault : Option Error) :
      Effect now f none (Api.counted label fault (Api.changed now f change))

variable {now : Timestamp} {m : Monitor} {f : Fleet}

/-- What acts deliver is what the first one delivers and what the others do after it. -/
theorem forall_mem_deliveries_cons {P : Delivery → Prop} {a : Act}
    {rest : List (Timestamp × Act)} : (∀ d ∈ m.deliveries ((now, a) :: rest), P d) ↔
      (∀ d, m.event? now a = some (.delivered d) → P d) ∧
      ∀ d ∈ (m.act now a).deliveries rest, P d := by
  rw [deliveries, events, List.filterMap_append, List.forall_mem_append]
  refine and_congr_left' ?_
  cases m.event? now a with
  | none => simp
  | some e => cases e <;> simp [Event.delivery?]

theorem effect_of_nothing : Effect now f none f :=
  .aside none (by simp) "" none

theorem effect_of_call (now : Timestamp) (f : Fleet) (c : Fleet.Call) :
    Effect now f (eventOfCall? now f c) (f.perform now c).2 := by
  cases c with
  | applyOutcome probed outcome => exact .deliver probed outcome
  | register | deregister | updateMetadata | purge =>
    exact .aside (some _) (by simp [Fleet.Call.outcome?]) "" none

theorem effect_of_changed (now : Timestamp) (f : Fleet) (change : Option Fleet.Call) :
    Effect now f (change.bind (eventOfCall? now f)) (Api.changed now f change) := by
  cases change with
  | none => exact effect_of_nothing
  | some c => exact effect_of_call now f c

/-- No request delivers an outcome. -/
theorem outcome?_of_change? {request : Api.Request} {resource : Api.Resource} {c : Fleet.Call}
    (h : Api.change? request resource = some c) : c.outcome? = none := by
  cases resource with
  | instances =>
    obtain ⟨r, -, rfl⟩ := Option.map_eq_some_iff.mp h
    rfl
  | recordMetadata id =>
    obtain ⟨id, -, hpairs⟩ := Option.bind_eq_some_iff.mp h
    obtain ⟨pairs, -, rfl⟩ := Option.map_eq_some_iff.mp hpairs
    rfl
  | deregistration id =>
    obtain ⟨id, -, rfl⟩ := Option.map_eq_some_iff.mp h
    rfl
  | report id =>
    obtain ⟨id, -, rfl⟩ := Option.map_eq_some_iff.mp h
    rfl
  | _ => contradiction

/-- A request makes a call at most, and is counted at most. -/
theorem fleet_of_request (now : Timestamp) (f : Fleet) (request : Api.Request) :
    ∃ change resource fault, (∀ c ∈ change, c.outcome? = none) ∧
      Api.receive now f (.request request) =
        Api.counted (Api.Resource.label resource) fault (Api.changed now f change) := by
  simp only [Api.receive]
  cases hhandle : Api.handle now request f with
  | none => exact ⟨none, .status, none, by simp, rfl⟩
  | some handled =>
    obtain ⟨response, f'⟩ := handled
    rw [Option.map_some, Option.getD_some]
    obtain ⟨resource, -, -, -, rfl⟩ | ⟨-, -, rfl⟩ := Api.handle_cases hhandle
    · exact ⟨_, resource, _, fun c hc => outcome?_of_change? hc,
        (Api.serves now request f resource).fleet⟩
    · exact ⟨none, .status, none, by simp, rfl⟩

/-- A step of a round changes the fleet by its call, if it makes one. -/
theorem changed_of_step {pool : Nat} {r next : Round} {f' : Fleet} {s : Round.Step}
    (h : r.step? pool now f s = some (next, f')) : f' = Api.changed now f (s.call? r) := by
  cases s with
  | dispatch =>
    obtain ⟨d, -, heq⟩ := Option.map_eq_some_iff.mp h
    exact (Prod.mk.inj heq).2.symm
  | answer id outcome =>
    obtain ⟨i, hi, heq⟩ := Option.map_eq_some_iff.mp h
    rw [Round.Step.call?, hi, Option.map_some]
    exact (Prod.mk.inj heq).2.symm
  | lose id =>
    obtain ⟨i, -, heq⟩ := Option.map_eq_some_iff.mp h
    exact (Prod.mk.inj heq).2.symm
  | cancel | call c => exact (Prod.mk.inj (Option.some.inj h)).2.symm

/-- A step that is not possible means nothing. -/
theorem call?_of_impossible {pool : Nat} {r : Round} {s : Round.Step}
    (h : r.step? pool now f s = none) : s.call? r = none := by
  cases s with
  | dispatch | lose | cancel => rfl
  | answer id outcome =>
    rw [Round.Step.call?, Option.map_eq_none_iff]
    exact Option.map_eq_none_iff.mp h
  | call c => contradiction

/-- An act records a round that is over, or it makes a call at most, or it is a request. -/
theorem fleet_of_act (now : Timestamp) (m : Monitor) (a : Act) :
    (∃ duration, m.event? now a = some .finished ∧
      (m.act now a).fleet = Round.record duration m.fleet) ∨
    (∃ change, m.event? now a = change.bind (eventOfCall? now m.fleet) ∧
      (m.act now a).fleet = Api.changed now m.fleet change) ∨
    ∃ change resource fault, m.event? now a = none ∧ (∀ c ∈ change, c.outcome? = none) ∧
      (m.act now a).fleet =
        Api.counted (Api.Resource.label resource) fault (Api.changed now m.fleet change) := by
  cases a with
  | call c => exact .inr (.inl ⟨some c, rfl, rfl⟩)
  | request r =>
    obtain ⟨change, resource, fault, hsilent, hfleet⟩ := fleet_of_request now m.fleet r
    exact .inr (.inr ⟨change, resource, fault, rfl, hsilent, hfleet⟩)
  | begin => exact .inr (.inl ⟨none, rfl, rfl⟩)
  | step place pool s =>
    simp only [act, event?]
    cases hround : m.rounds[place]? with
    | none => exact .inr (.inl ⟨none, rfl, rfl⟩)
    | some r =>
      simp only [Option.bind_some]
      cases hstep : r.step? pool now m.fleet s with
      | none => exact .inr (.inl ⟨none, by rw [call?_of_impossible hstep], rfl⟩)
      | some state => exact .inr (.inl ⟨s.call? r, rfl, changed_of_step hstep⟩)
  | finish place duration =>
    simp only [act, event?]
    cases m.rounds[place]?.filter Round.isOver with
    | none => exact .inr (.inl ⟨none, rfl, rfl⟩)
    | some r => exact .inl ⟨duration, rfl, rfl⟩

theorem effect_of_act (now : Timestamp) (m : Monitor) (a : Act) :
    Effect now m.fleet (m.event? now a) (m.act now a).fleet := by
  obtain ⟨duration, hevent, hfleet⟩ | ⟨change, hevent, hfleet⟩ |
    ⟨change, resource, fault, hevent, hsilent, hfleet⟩ := fleet_of_act now m a
  · rw [hevent, hfleet]
    exact .finish duration
  · rw [hevent, hfleet]
    exact effect_of_changed now m.fleet change
  · rw [hevent, hfleet]
    exact .aside change hsilent resource.label fault

variable {event : Option Event} {f' : Fleet}

theorem Effect.sound (h : Effect now f event f') (hf : f.Sound) : f'.Sound := by
  cases h with
  | deliver probed outcome => exact hf.perform now (.applyOutcome probed outcome)
  | finish duration => exact hf.meter _
  | aside change silent label fault =>
    apply Api.sound_counted
    cases change with
    | none => exact hf
    | some c => exact hf.perform now c

/-- An effect on the stores is that of a call, if it has one. -/
theorem Effect.stores (h : Effect now f event f') : ∃ change,
    f'.SameStores (Api.changed now f change) ∧
    ∀ c ∈ change, ∀ o ∈ c.outcome?, event = some (.delivered (f.deliver now o.1 o.2)) := by
  cases h with
  | deliver probed outcome =>
    refine ⟨some (.applyOutcome probed outcome), ⟨rfl, rfl, rfl⟩, ?_⟩
    rintro _ ⟨⟩ _ ⟨⟩
    rfl
  | finish duration => exact ⟨none, f.sameStores_meter _, by simp⟩
  | aside change silent label fault =>
    refine ⟨change, Api.sameStores_counted label fault _, fun c hc o ho => ?_⟩
    simp [silent c hc] at ho

theorem Effect.thresholds (h : Effect now f event f') :
    f'.standings.thresholds = f.standings.thresholds := by
  obtain ⟨change, hsame, -⟩ := h.stores
  rw [hsame.standings]
  cases change with
  | none => rfl
  | some c => exact Fleet.thresholds_perform f now c

/-- What holds at the start and is kept by every effect, at a time of some kind, holds after every
run at such times. -/
theorem run_induction {T : Timestamp → Prop} {P : List Event → Fleet → Prop}
    (effect : ∀ past now f event f', T now → P past f → Effect now f event f' →
      P (past ++ event.toList) f')
    {past : List Event} (hstart : P past m.fleet) (acts : List (Timestamp × Act))
    (htimes : ∀ a ∈ acts, T a.1) : P (past ++ m.events acts) (m.run acts).fleet := by
  induction acts generalizing m past with
  | nil => simpa [events, run] using hstart
  | cons a rest ih =>
    have hnow := htimes a List.mem_cons_self
    have hnext := effect past a.1 m.fleet _ _ hnow hstart (effect_of_act a.1 m a.2)
    have hlast := ih hnext fun b hb => htimes b (List.mem_cons_of_mem a hb)
    rwa [List.append_assoc] at hlast

/-- The thresholds are set once and for all. -/
theorem thresholds_run (m : Monitor) (acts : List (Timestamp × Act)) :
    (m.run acts).fleet.standings.thresholds = m.fleet.standings.thresholds := by
  induction acts generalizing m with
  | nil => rfl
  | cons a rest ih => exact (ih (m.act a.1 a.2)).trans (effect_of_act a.1 m a.2).thresholds

theorem run_append (m : Monitor) (first second : List (Timestamp × Act)) :
    (m.run first).run second = m.run (first ++ second) := List.foldl_append.symm

/-- Whatever happens, the stores of the fleet stay in step. -/
theorem sound_run (t : Thresholds) (metered : Bool) (acts : List (Timestamp × Act)) :
    ((start t metered).run acts).fleet.Sound := by
  have hstart : (start t metered).fleet.Sound := Fleet.sound_run t metered []
  have hkept : ∀ (past : List Event) now f event f', True → f.Sound → Effect now f event f' →
      f'.Sound := fun _ _ _ _ _ _ hf heffect => heffect.sound hf
  exact @run_induction _ (fun _ => True) (fun _ f => f.Sound) hkept [] hstart acts
    fun _ _ => trivial

end Monitor

end ServiceHealth
