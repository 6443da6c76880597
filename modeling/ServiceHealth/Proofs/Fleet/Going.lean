import ServiceHealth.Proofs.Fleet.Succession

/-!
# Getting somewhere

That a round or a watch gets from one state to another by some steps, with the probes that they
sent. Runs are put together from pieces, and what a round does in a watch is done by the watch.
-/
namespace ServiceHealth

namespace Round

/-- A round gets from one state to another by steps that are allowed, with probes sent to some
instances in between. -/
def Goes (pool : Nat) (allowed : Step → Bool) (r : Round) (f : Fleet) (l : List Instance)
    (next : Round) (f' : Fleet) : Prop :=
  ∃ steps : List (Timestamp × Step), (∀ s ∈ steps, allowed s.2) ∧
    steps? pool steps r f = some (next, f') ∧ sent (log pool steps r f) = l

theorem steps?_append (pool : Nat) (first second : List (Timestamp × Step)) (r : Round)
    (f : Fleet) : steps? pool (first ++ second) r f =
      (steps? pool first r f).bind fun last => steps? pool second last.1 last.2 := by
  induction first generalizing r f with
  | nil => rfl
  | cons step rest ih =>
    simp only [List.cons_append, steps?, ih, Option.bind_assoc]

theorem log_append {pool : Nat} {first second : List (Timestamp × Step)} {r next : Round}
    {f f' : Fleet} (h : steps? pool first r f = some (next, f')) :
    log pool (first ++ second) r f = log pool first r f ++ log pool second next f' := by
  induction first generalizing r f with
  | nil =>
    obtain ⟨rfl, rfl⟩ := Prod.mk.inj (Option.some.inj h)
    rfl
  | cons step rest ih =>
    obtain ⟨⟨between, fleet⟩, hstep, hrest⟩ := Option.bind_eq_some_iff.mp h
    simp only [List.cons_append, log, hstep, ih hrest, List.append_assoc]

variable {pool : Nat} {allowed : Step → Bool} {r next last : Round} {f f' f'' : Fleet}

theorem Goes.refl (pool : Nat) (allowed : Step → Bool) (r : Round) (f : Fleet) :
    Goes pool allowed r f [] r f := ⟨[], by simp, rfl, rfl⟩

theorem Goes.trans {first second : List Instance} (h : Goes pool allowed r f first next f')
    (h' : Goes pool allowed next f' second last f'') :
    Goes pool allowed r f (first ++ second) last f'' := by
  obtain ⟨steps, hallowed, hsteps, hsent⟩ := h
  obtain ⟨steps', hallowed', hsteps', hsent'⟩ := h'
  refine ⟨steps ++ steps', ?_, ?_, ?_⟩
  · exact fun s hs => (List.mem_append.mp hs).elim (hallowed s) (hallowed' s)
  · rw [steps?_append, hsteps]
    exact hsteps'
  · rw [log_append hsteps, sent_append, hsent, hsent']

theorem Goes.weaken {l : List Instance} (h : Goes pool allowed r f l next f') :
    Goes pool (fun _ => true) r f l next f' := by
  obtain ⟨steps, -, hsteps⟩ := h
  exact ⟨steps, by simp, hsteps⟩

/-- A single step. -/
theorem goes_of_step (now : Timestamp) {s : Step} (hallowed : allowed s)
    (h : r.step? pool now f s = some (next, f')) :
    Goes pool allowed r f (sent (r.event? pool now f s).toList) next f' := by
  refine ⟨[(now, s)], by simpa using hallowed, ?_, ?_⟩
  · rw [steps?, h]
    rfl
  · rw [log, h]
    simp [log]

theorem goes_of_dispatch {i : Instance} (hallowed : allowed .dispatch)
    (h : r.dispatch? pool = some (i, next)) (f : Fleet) : Goes pool allowed r f [i] next f := by
  have hstep : r.step? pool ⟨0⟩ f .dispatch = some (next, f) := by rw [step?, h]; rfl
  have hgoes := goes_of_step ⟨0⟩ hallowed hstep
  rwa [event?, h] at hgoes

theorem goes_of_calls (hallowed : ∀ c, allowed (.call c)) (calls : List (Timestamp × Fleet.Call)) :
    Goes pool allowed r f [] r (f.run calls) := by
  induction calls generalizing f with
  | nil => exact .refl pool allowed r f
  | cons call rest ih => exact (goes_of_step call.1 (hallowed call.2) rfl).trans ih

theorem goes_of_cancel (pool : Nat) (f : Fleet) (hallowed : allowed .cancel) :
    Goes pool allowed r f [] r.cancel f :=
  goes_of_step ⟨0⟩ hallowed rfl

theorem goes_of_answer {i : Instance} (hallowed : ∀ id outcome, allowed (.answer id outcome))
    (hi : r.flying.find? (·.serviceId = i.serviceId) = some i) (now : Timestamp)
    (outcome : Probe.Outcome) (f : Fleet) :
    Goes pool allowed r f [] (r.land now i outcome f).1 (r.land now i outcome f).2 := by
  have hstep : r.step? pool now f (.answer i.serviceId outcome) =
      some (r.land now i outcome f) := by
    rw [step?, hi]
    rfl
  have hgoes := goes_of_step now (hallowed i.serviceId outcome) hstep
  rwa [event?, hi] at hgoes

theorem goes_of_lose {i : Instance} (hallowed : ∀ id, allowed (.lose id))
    (hi : r.flying.find? (·.serviceId = i.serviceId) = some i) (f : Fleet) :
    Goes pool allowed r f [] (r.landed i.serviceId) f := by
  have hstep : r.step? pool ⟨0⟩ f (.lose i.serviceId) = some (r.landed i.serviceId, f) := by
    rw [step?, hi]
    rfl
  have hgoes := goes_of_step ⟨0⟩ (hallowed i.serviceId) hstep
  rwa [event?, hi] at hgoes

/-- A round with nobody waiting is over as soon as every probe under way is answered, whatever the
answers are. -/
theorem goes_until_over (pool : Nat) (hallowed : ∀ id outcome, allowed (.answer id outcome))
    (outcome : Instance → Probe.Outcome) (hwaiting : r.waiting = []) (now : Timestamp)
    (f : Fleet) : ∃ last f', Goes pool allowed r f [] last f' ∧ last.isOver := by
  induction hflying : r.flying generalizing r f with
  | nil => exact ⟨r, f, .refl .., isOver_iff.mpr ⟨hwaiting, hflying⟩⟩
  | cons i rest ih =>
    have hi : r.flying.find? (·.serviceId = i.serviceId) = some i := by
      rw [hflying, List.find?_cons_of_pos (by simp)]
    have hrest : (r.landed i.serviceId).flying = rest := by
      rw [landed, hflying, List.eraseP_cons, cond_eq_ite, if_pos (by simp)]
    obtain ⟨last, f', hgoes, hover⟩ := ih (r := (r.land now i (outcome i) f).1)
      (f := (r.land now i (outcome i) f).2) hwaiting hrest
    exact ⟨last, f', (goes_of_answer hallowed hi now (outcome i) f).trans hgoes, hover⟩

end Round

namespace Watch

/-- A watch gets from one state to another, with probes sent to some instances in between. -/
def Goes (pool : Nat) (w : Watch) (l : List Instance) (next : Watch) : Prop :=
  ∃ steps, steps? pool steps w = some next ∧ sent (log pool steps w) = l

theorem steps?_append (pool : Nat) (first second : List (Timestamp × Step)) (w : Watch) :
    steps? pool (first ++ second) w = (steps? pool first w).bind (steps? pool second) := by
  induction first generalizing w with
  | nil => rfl
  | cons step rest ih =>
    simp only [List.cons_append, steps?, Option.bind_assoc]
    exact congrArg _ (funext ih)

theorem log_append {pool : Nat} {first second : List (Timestamp × Step)} {w next : Watch}
    (h : steps? pool first w = some next) :
    log pool (first ++ second) w = log pool first w ++ log pool second next := by
  induction first generalizing w with
  | nil =>
    obtain rfl := Option.some.inj h
    rfl
  | cons step rest ih =>
    obtain ⟨between, hstep, hrest⟩ := Option.bind_eq_some_iff.mp h
    simp only [List.cons_append, log, hstep, ih hrest, List.append_assoc]

variable {pool : Nat} {w next last : Watch}

theorem Goes.refl (pool : Nat) (w : Watch) : Goes pool w [] w := ⟨[], rfl, rfl⟩

theorem Goes.trans {first second : List Instance} (h : Goes pool w first next)
    (h' : Goes pool next second last) : Goes pool w (first ++ second) last := by
  obtain ⟨steps, hsteps, hsent⟩ := h
  obtain ⟨steps', hsteps', hsent'⟩ := h'
  refine ⟨steps ++ steps', ?_, ?_⟩
  · rw [steps?_append, hsteps]
    exact hsteps'
  · rw [log_append hsteps, sent_append, hsent, hsent']

/-- A single step. -/
theorem goes_of_step (now : Timestamp) {s : Step} (h : w.step? pool now s = some next) :
    Goes pool w (sent (w.event? pool now s).toList) next := by
  refine ⟨[(now, s)], ?_, ?_⟩
  · rw [steps?, h]
    rfl
  · rw [log, h]
    simp [log]

theorem goes_of_calls (calls : List (Timestamp × Fleet.Call)) :
    Goes pool w [] { w with fleet := w.fleet.run calls } := by
  induction calls generalizing w with
  | nil => exact .refl pool w
  | cons call rest ih => exact (goes_of_step call.1 (s := .call call.2) rfl).trans ih

/-- What a round can do, the watch can do with it. -/
theorem goes_of_round {r last : Round} {f : Fleet} {l : List Instance}
    (h : r.Goes pool (allows w.stopping) w.fleet l last f) (hphase : w.phase = .probing r) :
    Goes pool w l { w with fleet := f, phase := .probing last } := by
  obtain ⟨steps, hallowed, hsteps, rfl⟩ := h
  induction steps generalizing w r with
  | nil =>
    obtain ⟨rfl, rfl⟩ := Prod.mk.inj (Option.some.inj hsteps)
    rw [← hphase]
    exact .refl pool w
  | cons step rest ih =>
    obtain ⟨now, s⟩ := step
    obtain ⟨⟨between, fleet⟩, hstep, hrest⟩ := Option.bind_eq_some_iff.mp hsteps
    obtain ⟨hs, hallowed⟩ := List.forall_mem_cons.mp hallowed
    let next : Watch := { w with fleet := fleet, phase := .probing between }
    have hmade : w.step? pool now (.round s) = some next := by
      simp only [step?, hphase, hs, if_true, hstep, Option.map_some, next]
    have hgoes := (goes_of_step now hmade).trans (ih (w := next) rfl hallowed hrest)
    rw [Round.log, hstep, Round.sent_append]
    rwa [event?, hphase, sent_probe] at hgoes

/-- A watch that is asked to stop comes to its end once every probe under way is answered, whatever
the answers are, and without sending another one. -/
theorem goes_until_over (hstopping : w.stopping) (outcome : Instance → Probe.Outcome)
    (now : Timestamp) : ∃ last, Goes pool w [] last ∧ last.isOver := by
  have hleave (f : Fleet) : Goes pool ⟨f, .resting, w.stopping⟩ [] ⟨f, .ended, w.stopping⟩ := by
    refine goes_of_step now (s := .leave) ?_
    rw [hstopping]
    rfl
  cases hphase : w.phase with
  | ended => exact ⟨w, .refl pool w, by rw [isOver, hphase]⟩
  | resting =>
    refine ⟨⟨w.fleet, .ended, w.stopping⟩, ?_, rfl⟩
    have hleave := hleave w.fleet
    rwa [← hphase] at hleave
  | probing r =>
    have hcancel : r.Goes pool (allows w.stopping) w.fleet [] r.cancel w.fleet :=
      Round.goes_of_cancel pool w.fleet hstopping
    have hallowed (id : String) (outcome : Probe.Outcome) :
        allows w.stopping (.answer id outcome) := rfl
    obtain ⟨last, f, hanswer, hover⟩ :=
      Round.goes_until_over pool hallowed outcome r.waiting_cancel now w.fleet
    have hround := goes_of_round (hcancel.trans hanswer) hphase
    have hfinish : Goes pool ⟨f, .probing last, w.stopping⟩ [] ⟨Round.record ⟨0⟩ f,
        if last.summary.cancelled then .ended else .resting, w.stopping⟩ := by
      refine goes_of_step now (s := .finish ⟨0⟩) ?_
      simp only [step?, hover, if_true]
    cases hcancelled : last.summary.cancelled with
    | true =>
      rw [hcancelled] at hfinish
      exact ⟨_, hround.trans hfinish, rfl⟩
    | false =>
      rw [hcancelled] at hfinish
      exact ⟨_, (hround.trans hfinish).trans (hleave _), rfl⟩

end Watch

end ServiceHealth
