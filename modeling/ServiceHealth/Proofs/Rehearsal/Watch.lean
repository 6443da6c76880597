import ServiceHealth.Proofs.Rehearsal.Round

/-!
# Rehearsals of the loop

A rehearsal of the loop is a watch whose rounds are due when the plan says so. All that it does is a
step of the watch: what holds for every sequence of steps holds of it, for every interval, with
rounds that take longer than that, and for every moment at which it is asked to stop.
-/
namespace ServiceHealth.Rehearsal

variable {α : Type} {p : Plan} {r next : Rehearsal α} {rest : List (Nat × Event α)}

/-- A rehearsal of the loop is where a watch is. -/
def Agrees (p : Plan) (r : Rehearsal α) (phase : Watch.Phase) : Prop :=
  match r.phase with
  | .resting _ => phase = .resting ∧ r.flights = [] ∧ r.stopping = false
  | .probing _ _ => phase = .probing r.round ∧ Steady p r
  | .ended _ => phase = .ended

theorem Agrees.congr {phase : Watch.Phase} (h : Agrees p r phase) (round : next.round = r.round)
    (flights : next.flights = r.flights) (stopping : next.stopping = r.stopping)
    (same : next.phase = r.phase) : Agrees p next phase := by
  unfold Agrees at h ⊢
  rw [same, round, flights, stopping]
  split at h
  · exact h
  · exact ⟨h.1, h.2.congr round flights stopping⟩
  · exact h

/-- A rehearsal of the loop has done what a watch over a fleet can do. -/
structure Follows (p : Plan) (f : Fleet) (w : Watch) (r : Rehearsal α) : Prop where
  run : (Watch.start f).Goes p.pool (r.starts.map (·.probed)) w
  fleet : w.fleet = r.fleet
  stopping : w.stopping = r.stopping
  phase : Agrees p r w.phase
  plain : ∀ e ∈ r.events, e.2.IsPlain

variable {f : Fleet} {w w' : Watch}

theorem Follows.probing (h : Follows p f w r) {due began : Nat}
    (hphase : r.phase = .probing due began) : w.phase = .probing r.round ∧ Steady p r := by
  have hagrees := h.phase
  rwa [Agrees, hphase] at hagrees

theorem Follows.resting (h : Follows p f w r) {due : Nat} (hphase : r.phase = .resting due) :
    w.phase = .resting ∧ r.flights = [] ∧ r.stopping = false := by
  have hagrees := h.phase
  rwa [Agrees, hphase] at hagrees

/-- What a rehearsal does within a round is what the watch does. -/
theorem Follows.conducts (h : Follows p f w r) {due began : Nat}
    (hprobing : r.phase = .probing due began) (hgo : Conducts p r next)
    (hsteady : Steady p next) : ∃ w', Follows p f w' next := by
  obtain ⟨hphase, -⟩ := h.probing hprobing
  obtain ⟨l, hgoes, hstarts⟩ := hgo.goes
  rw [← h.stopping, ← h.fleet] at hgoes
  refine ⟨{ w with fleet := next.fleet, phase := .probing next.round }, ?_, rfl, ?_, ?_, ?_⟩
  · rw [hstarts]
    exact h.run.trans (Watch.goes_of_round hgoes hphase)
  · exact h.stopping.trans hgo.stopping.symm
  · rw [Agrees, hgo.phase, hprobing]
    exact ⟨rfl, hsteady⟩
  · exact fun e he => h.plain e (hgo.events.subset he)

/-- What the watch does without sending a probe. -/
theorem Follows.go (h : Follows p f w r) (hgo : w.Goes p.pool [] w')
    (fleet : w'.fleet = next.fleet) (stopping : w'.stopping = next.stopping)
    (starts : next.starts = r.starts) (events : next.events <:+ r.events)
    (phase : Agrees p next w'.phase) : Follows p f w' next := by
  refine ⟨?_, fleet, stopping, phase, fun e he => h.plain e (events.subset he)⟩
  rw [starts, ← List.append_nil (r.starts.map _)]
  exact h.run.trans hgo

theorem Follows.act (h : Follows p f w r) {action : Fleet → α × Fleet}
    (hplain : (Event.act action).IsPlain) (hrest : rest <:+ r.events) (time : Nat) :
    ∃ w', Follows p f w' (r.happen time (.act action) rest) := by
  obtain ⟨calls, hcalls⟩ := hplain r.fleet
  have hfleet : w.fleet.run calls = (action r.fleet).2 := by rw [hcalls, h.fleet]
  exact ⟨_, h.go (Watch.goes_of_calls calls) hfleet h.stopping rfl hrest
    (h.phase.congr rfl rfl rfl rfl)⟩

theorem Follows.script (h : Follows p f w r) (hrest : rest <:+ r.events) (time : Nat)
    (replies : List (String × List Reply)) (answer : α) :
    Follows p f w (r.happen time (.script replies answer) rest) :=
  h.go (.refl ..) h.fleet h.stopping rfl hrest (h.phase.congr rfl rfl rfl rfl)

/-- A rehearsal that is asked to stop between two rounds ends, and in a round it cuts it short. -/
theorem Follows.stop (h : Follows p f w r) (hrest : rest <:+ r.events) (time : Nat) :
    ∃ w', Follows p f w' (r.happen time .stop rest) := by
  have hask : w.Goes p.pool [] { w with stopping := true } :=
    Watch.goes_of_step ⟨0⟩ (s := .ask) rfl
  cases hphase : r.phase with
  | resting due =>
    obtain ⟨hw, -⟩ := h.resting hphase
    have hleave : ({ w with stopping := true } : Watch).Goes p.pool [] ⟨w.fleet, .ended, true⟩ := by
      refine Watch.goes_of_step ⟨0⟩ (s := .leave) ?_
      simp only [Watch.step?, hw, if_true]
    refine ⟨_, h.go (hask.trans hleave) h.fleet rfl rfl hrest ?_⟩
    simp only [Agrees, Rehearsal.happen, hphase]
  | probing due began =>
    obtain ⟨hw, hsteady⟩ := h.probing hphase
    have hcancel := Watch.goes_of_round (w := { w with stopping := true })
      (Round.goes_of_cancel p.pool w.fleet rfl) hw
    refine ⟨_, h.go (hask.trans hcancel) h.fleet rfl rfl hrest ?_⟩
    have hstop := steady_stop hsteady time rest
    simp only [Rehearsal.happen, hphase] at hstop
    simpa only [Agrees, Rehearsal.happen, hphase, true_and] using hstop
  | ended ended =>
    have hw : w.phase = .ended := by
      have hagrees := h.phase
      rwa [Agrees, hphase] at hagrees
    refine ⟨_, h.go hask h.fleet rfl rfl hrest ?_⟩
    simpa only [Agrees, Rehearsal.happen, hphase] using hw

theorem Follows.happen (h : Follows p f w r) {time : Nat} {event : Event α}
    (hevents : r.events = (time, event) :: rest) :
    ∃ w', Follows p f w' (r.happen time event rest) := by
  have hrest : rest <:+ r.events := hevents ▸ List.suffix_cons _ _
  have hplain : event.IsPlain := h.plain (time, event) (hevents ▸ List.mem_cons_self)
  cases event with
  | act action => exact h.act hplain hrest time
  | script replies answer => exact ⟨w, h.script hrest time replies answer⟩
  | stop => exact h.stop hrest time

/-- A round begins. -/
theorem Follows.beginRound (h : Follows p f w r) (hf : f.catalog.Keyed) {due : Nat}
    (hresting : r.phase = .resting due) (time : Nat) :
    ∃ w', Follows p f w' ({ r with time := time }.beginRound p due) := by
  obtain ⟨hw, hflights, hopen⟩ := h.resting hresting
  obtain ⟨steps, hsteps, -⟩ := h.run
  have hkeyed : r.fleet.catalog.Keyed := h.fleet ▸ (Watch.apart_of_steps hf hsteps).keyed
  let now : Rehearsal α := { r with time := time }
  let begun : Watch := { w with phase := .probing (.ofFleet w.fleet) }
  obtain ⟨hgo, hsteady⟩ := steady_beginRound (p := p) (r := now) hkeyed hflights due
  have hbegin : w.Goes p.pool [] begun := by
    refine Watch.goes_of_step ⟨0⟩ (s := .begin) ?_
    simp [Watch.step?, hw, h.stopping, hopen, begun]
  have hround : (now.opened due).round = .ofFleet w.fleet := by
    simp [opened, now, hopen, h.fleet]
  have hstopping : (now.opened due).stopping = begun.stopping := h.stopping.symm
  have hfleet : (now.opened due).fleet = begun.fleet := h.fleet.symm
  obtain ⟨l, hgoes, hstarts⟩ := hgo.goes
  rw [hround, hstopping, hfleet] at hgoes
  refine ⟨{ begun with
    fleet := (now.beginRound p due).fleet
    phase := .probing (now.beginRound p due).round }, ?_, rfl, ?_, ?_, ?_⟩
  · rw [hstarts]
    exact h.run.trans (hbegin.trans (Watch.goes_of_round hgoes rfl))
  · exact hstopping.symm.trans hgo.stopping.symm
  · rw [Agrees, hgo.phase]
    exact ⟨rfl, hsteady⟩
  · exact fun e he => h.plain e (hgo.events.subset he)

/-- A round ends, and with it the rehearsal if it is to stop. -/
theorem Follows.endRound (h : Follows p f w r) {interval due began : Nat}
    (hloop : p.interval = some interval) (hprobing : r.phase = .probing due began)
    (hflights : r.flights = []) : ∃ w', Follows p f w' (r.endRound p due began) := by
  obtain ⟨hw, hsteady⟩ := h.probing hprobing
  have hover := hsteady.isOver hflights
  let duration : Span := .ofMillis (r.time - began)
  have hfinish : w.Goes p.pool [] { w with
      fleet := Round.record duration w.fleet
      phase := if r.round.summary.cancelled then .ended else .resting } := by
    refine Watch.goes_of_step ⟨0⟩ (s := .finish duration) ?_
    simp only [Watch.step?, hw, hover, if_true]
  have hfleet : Round.record duration w.fleet = Round.record duration r.fleet := by rw [h.fleet]
  cases hcancelled : r.round.summary.cancelled with
  | true =>
    rw [hcancelled] at hfinish
    refine ⟨_, h.go hfinish hfleet h.stopping rfl (List.suffix_refl _) ?_⟩
    simp [Agrees, Rehearsal.endRound, hloop, hcancelled]
  | false =>
    rw [hcancelled] at hfinish
    cases hstopping : r.stopping with
    | true =>
      have hleave : ({ w with
          fleet := Round.record duration w.fleet
          phase := .resting } : Watch).Goes p.pool []
          ⟨Round.record duration w.fleet, .ended, w.stopping⟩ := by
        refine Watch.goes_of_step ⟨0⟩ (s := .leave) ?_
        simp only [Watch.step?, h.stopping, hstopping, if_true]
      refine ⟨_, h.go (hfinish.trans hleave) hfleet h.stopping rfl (List.suffix_refl _) ?_⟩
      simp [Agrees, Rehearsal.endRound, hloop, hstopping]
    | false =>
      refine ⟨_, h.go hfinish hfleet h.stopping rfl (List.suffix_refl _) ?_⟩
      simp [Agrees, Rehearsal.endRound, hloop, hstopping, hcancelled, hflights]

theorem Follows.advance (h : Follows p f w r) (hf : f.catalog.Keyed) {interval : Nat}
    (hloop : p.interval = some interval) : ∃ w', Follows p f w' (r.advance p) := by
  obtain ⟨time, event, rest, hevents, heq⟩ | ⟨time, act, hnext, heq⟩ | heq := advance_cases p r
  · rw [heq]
    exact h.happen hevents
  · rw [heq]
    obtain ⟨due, began, hprobing, rfl | ⟨hflights, rfl⟩⟩ | ⟨due, hresting, rfl⟩ := next_cases hnext
    · obtain ⟨-, hsteady⟩ := h.probing hprobing
      obtain ⟨hland, hrest⟩ := conducts_landFirst (p := p) hsteady.toInFlight time
      exact h.conducts hprobing hland hrest
    · exact h.endRound hloop hprobing hflights
    · exact h.beginRound hf hresting time
  · rw [heq]
    exact ⟨w, h⟩

theorem Follows.goOn (h : Follows p f w r) (hf : f.catalog.Keyed) {interval : Nat}
    (hloop : p.interval = some interval) (n : Nat) : ∃ w', Follows p f w' (r.goOn p n) := by
  induction n generalizing w r with
  | zero => exact ⟨w, h⟩
  | succ n ih =>
    obtain ⟨w', h'⟩ := h.advance hf hloop
    exact ih h'

/-- A rehearsal of the loop is a watch. Whatever its scripts, its clock and the calls from outside
are, it has done what a watch over its fleet can do, and it has begun the probes which that watch
sent, in the same order. -/
theorem rehearsal_is_watch (p : Plan) (hloop : p.interval.isSome) (t : Thresholds) (metered : Bool)
    (calls : List (Timestamp × Fleet.Call)) (scripts : Scripts) (events : List (Nat × Event α))
    (hplain : ∀ e ∈ events, e.2.IsPlain) (stopping : Bool) :
    let f := (Fleet.empty t metered).run calls
    ∃ w, Follows p f w ((ofFleet f scripts events stopping).run p) := by
  intro f
  obtain ⟨interval, hinterval⟩ := Option.isSome_iff_exists.mp hloop
  have hkeyed : f.catalog.Keyed := Fleet.keyed_run t metered calls
  unfold run
  rw [hinterval]
  cases stopping with
  | false =>
    have hstart : Follows p f (Watch.start f) (ofFleet f scripts events false) :=
      ⟨.refl .., rfl, rfl, ⟨rfl, rfl, rfl⟩, hplain⟩
    exact hstart.goOn hkeyed hinterval _
  | true =>
    have hask : (Watch.start f).Goes p.pool [] ⟨f, .resting, true⟩ :=
      Watch.goes_of_step ⟨0⟩ (s := .ask) rfl
    have hleave : (⟨f, .resting, true⟩ : Watch).Goes p.pool [] ⟨f, .ended, true⟩ :=
      Watch.goes_of_step ⟨0⟩ (s := .leave) rfl
    have hstart : Follows p f ⟨f, .ended, true⟩
        { ofFleet f scripts events true with phase := .ended 0 } :=
      ⟨hask.trans hleave, rfl, rfl, rfl, hplain⟩
    exact hstart.goOn hkeyed hinterval _

end ServiceHealth.Rehearsal
