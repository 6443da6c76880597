import ServiceHealth.Proofs.Fleet.Tallying
import ServiceHealth.Proofs.Monitor.Calls
import ServiceHealth.Proofs.Monitor.Conservation

/-!
# The gauges of the fleet add up

When a round is recorded, active instances are counted in one place and standings in another. Their
numbers differ by the active instances without an outcome since their last reset. A round that works
through its list leaves none of these, as long as its probes are all answered and the catalog stays
as it was.
-/
namespace ServiceHealth

namespace Round

/-- A step of the probing, or an outcome that is handed in from elsewhere. No probe is lost, and the
catalog stays. -/
def Step.IsProbing : Step → Prop
  | .lose _ => False
  | .call c => c.outcome?.isSome
  | _ => True

/-- A round over the active instances of a catalog that has stayed as it was. Unless the round was
cut short, each of them is waiting or is being probed or has a standing. -/
structure Covered (start : Catalog) (r : Round) (f : Fleet) : Prop where
  sound : f.Sound
  catalog : f.catalog = start
  instances : r.summary.instances = start.activeCount
  covered : r.summary.cancelled = false → ∀ i ∈ start.active,
    i ∈ r.waiting ∨ i ∈ r.flying ∨ (f.standings.get? i.serviceId).isSome

variable {pool : Nat} {start : Catalog} {r next : Round} {f f' : Fleet} {now : Timestamp}

theorem covered_ofFleet (hf : f.Sound) : Covered f.catalog (ofFleet f) f :=
  ⟨hf, rfl, rfl, fun _ _ hi => .inl hi⟩

/-- An outcome takes no standing away. -/
theorem Covered.deliver (h : Covered start r f) (now : Timestamp) (probed : Instance)
    (outcome : Probe.Outcome) : Covered start r (f.applyOutcome now probed outcome).2 where
  sound := h.sound.perform now (.applyOutcome probed outcome)
  catalog := (Fleet.catalog_applyOutcome f now probed outcome).trans h.catalog
  instances := h.instances
  covered hgoing i hi := by
    rw [h.sound.isSome_standing_applyOutcome]
    obtain hwaiting | hflying | hstanding := h.covered hgoing i hi
    · exact .inl hwaiting
    · exact .inr (.inl hflying)
    · exact .inr (.inr (.inl hstanding))

/-- The probe that is answered leaves a standing if its instance is on the list. -/
theorem Covered.answer (h : Covered start r f) {i : Instance}
    (hi : r.flying.find? (·.serviceId = i.serviceId) = some i) (now : Timestamp)
    (outcome : Probe.Outcome) :
    Covered start (r.land now i outcome f).1 (r.land now i outcome f).2 := by
  have hafter := h.deliver now i outcome
  refine ⟨hafter.sound, hafter.catalog, ?_, fun hgoing j hj => ?_⟩
  · rw [land, Summary.count_instances, h.instances]
  · rw [land, Summary.count_cancelled] at hgoing
    obtain hwaiting | hflying | hstanding := hafter.covered hgoing j hj
    · exact .inl hwaiting
    · obtain rfl | hrest := List.mem_cons.mp ((eraseP_perm hi).subset hflying)
      · have hactive : f.catalog.isActive j.serviceId := by
          obtain ⟨hfind, hisActive⟩ := (Catalog.mem_active h.sound.keyed).mp (h.catalog ▸ hj)
          rw [Catalog.isActive_eq, hfind]
          exact hisActive
        exact .inr (.inr ((h.sound.isSome_standing_applyOutcome ..).mpr (.inr ⟨rfl, hactive⟩)))
      · exact .inr (.inl hrest)
    · exact .inr (.inr hstanding)

theorem Covered.dispatch (h : Covered start r f) {i : Instance}
    (hd : r.dispatch? pool = some (i, next)) : Covered start next f := by
  obtain ⟨hwaiting, -, hnext⟩ := dispatch?_eq_some hd
  refine ⟨h.sound, h.catalog, ?_, fun hgoing j hj => ?_⟩
  · rw [hnext]
    exact h.instances
  · have hflying : next.flying = r.flying ++ [i] := by rw [hnext]
    have hbefore : r.summary.cancelled = false := by rw [← hgoing, hnext]
    rw [hflying]
    obtain hfirst | hunder | hstanding := h.covered hbefore j hj
    · rw [hwaiting] at hfirst
      obtain rfl | hlater := List.mem_cons.mp hfirst
      · exact .inr (.inl (List.mem_append_right _ (List.mem_singleton.mpr rfl)))
      · exact .inl hlater
    · exact .inr (.inl (List.mem_append_left _ hunder))
    · exact .inr (.inr hstanding)

theorem Covered.cancel (h : Covered start r f) : Covered start r.cancel f := by
  unfold Round.cancel
  split
  · exact h
  · exact ⟨h.sound, h.catalog, h.instances, fun hgoing => by contradiction⟩

theorem Covered.step (h : Covered start r f) {s : Step} (hs : s.IsProbing)
    (hstep : r.step? pool now f s = some (next, f')) : Covered start next f' := by
  cases s with
  | dispatch =>
    obtain ⟨⟨i, round⟩, hd, heq⟩ := Option.map_eq_some_iff.mp hstep
    obtain ⟨rfl, rfl⟩ := Prod.mk.inj heq
    exact h.dispatch hd
  | answer id outcome =>
    obtain ⟨i, hfind, heq⟩ := Option.map_eq_some_iff.mp hstep
    obtain ⟨-, hi⟩ := find?_self hfind
    have hanswer := h.answer hi now outcome
    rwa [heq] at hanswer
  | lose id => exact hs.elim
  | cancel =>
    obtain ⟨rfl, rfl⟩ := Prod.mk.inj (Option.some.inj hstep)
    exact h.cancel
  | call c =>
    obtain ⟨rfl, rfl⟩ := Prod.mk.inj (Option.some.inj hstep)
    cases c with
    | applyOutcome probed outcome => exact h.deliver now probed outcome
    | register | deregister | updateMetadata | purge => contradiction

theorem Covered.steps (h : Covered start r f) {steps : List (Timestamp × Step)}
    (hs : ∀ s ∈ steps, s.2.IsProbing) (hsteps : steps? pool steps r f = some (next, f')) :
    Covered start next f' := by
  induction steps generalizing r f with
  | nil =>
    obtain ⟨rfl, rfl⟩ := Prod.mk.inj (Option.some.inj hsteps)
    exact h
  | cons step rest ih =>
    obtain ⟨now, s⟩ := step
    obtain ⟨⟨between, fleet⟩, hstep, hrest⟩ := Option.bind_eq_some_iff.mp hsteps
    obtain ⟨hfirst, hlater⟩ := List.forall_mem_cons.mp hs
    exact ih (h.step hfirst hstep) hlater hrest

/-- A whole round ends with being recorded. -/
theorem record_of_whole? {steps : List (Timestamp × Step)} {duration : Span} {s : Summary}
    (h : whole? pool steps duration f = some (s, f')) : ∃ last, f' = record duration last := by
  obtain ⟨⟨r, last⟩, -, hend⟩ := Option.bind_eq_some_iff.mp h
  obtain ⟨-, heq⟩ := Option.ite_none_right_eq_some.mp hend
  exact ⟨last, (Prod.mk.inj (Option.some.inj heq)).2.symm⟩

/-- A round that works through its list leaves a standing for every active instance. -/
theorem standings_of_whole? (hf : f.Sound) {steps : List (Timestamp × Step)} {duration : Span}
    {s : Summary} (hs : ∀ s ∈ steps, s.2.IsProbing)
    (h : whole? pool steps duration f = some (s, f')) (hgoing : s.cancelled = false) :
    f'.standings.size = f'.catalog.activeCount ∧ f'.catalog.activeCount = s.instances := by
  obtain ⟨⟨r, last⟩, hsteps, hend⟩ := Option.bind_eq_some_iff.mp h
  obtain ⟨hover, heq⟩ := Option.ite_none_right_eq_some.mp hend
  obtain ⟨rfl, rfl⟩ := Prod.mk.inj (Option.some.inj heq)
  have hlast := (covered_ofFleet hf).steps hs hsteps
  obtain ⟨hwaiting, hflying⟩ := isOver_iff.mp hover
  refine ⟨hlast.sound.size_standings.2.mpr fun i hi => ?_, ?_⟩
  · have hcovered := hlast.covered hgoing i (hlast.catalog ▸ hi)
    simpa [hwaiting, hflying] using hcovered
  · rw [hlast.instances, ← hlast.catalog]
    rfl

end Round

namespace Monitor

/-- The gauges of the fleet add up. Take any acts of a fleet with meters. When a round that is over
is recorded, the gauges show how many instances are active and how many have a standing with each
status. The second numbers add up to the first at most, and to the first exactly if for every active
instance an outcome has counted since its health was last reset. They also do after a whole round
that was not cut short and lost no probe, if the fleet was told nothing but outcomes while it ran,
and then they add up to the number of instances on the list of the round. -/
theorem gauges_add_up (t : Thresholds) (acts : List (Timestamp × Act)) :
    let m := (start t true).run acts
    let sum := fun f : Fleet => f.standings.tracked .healthy + f.standings.tracked .unhealthy +
      f.standings.tracked .unknown
    (∀ now place duration r, m.rounds[place]? = some r → r.isOver →
      let f := (m.act now (.finish place duration)).fleet
      (∃ meters, f.meters = some meters ∧ meters.ShowsFleet f) ∧
      sum f ≤ f.catalog.activeCount ∧
      (sum f = f.catalog.activeCount ↔ ∀ i ∈ f.catalog.active,
        (Fleet.empty t true).readings i.serviceId ((start t true).calls acts) ≠ [])) ∧
    ∀ pool steps duration s f', Round.whole? pool steps duration m.fleet = some (s, f') →
      s.cancelled = false → (∀ step ∈ steps, step.2.IsProbing) →
      (∃ meters, f'.meters = some meters ∧ meters.ShowsFleet f') ∧
      sum f' = f'.catalog.activeCount ∧ f'.catalog.activeCount = s.instances := by
  intro m sum
  have hsound : m.fleet.Sound := sound_run t true acts
  have hsum (f : Fleet) : sum f = f.standings.size := f.standings.sum_tracked
  have hshown {f : Fleet} {duration : Span} {acts : List (Timestamp × Act)}
      (hrun : ((start t true).run acts).fleet = Round.record duration f) :
      ∃ meters, (Round.record duration f).meters = some meters ∧
        meters.ShowsFleet (Round.record duration f) := by
    obtain ⟨meters, hmeters, -⟩ := audited_run t acts
    have hlast := sound_run t true acts
    rw [hrun] at hmeters hlast
    exact ⟨meters, hmeters, Round.showsFleet_record hlast hmeters⟩
  refine ⟨fun now place duration r hround hover => ?_,
    fun pool steps duration s f' h hgoing hs => ?_⟩
  · have hact : (m.act now (.finish place duration)).fleet = Round.record duration m.fleet := by
      simp [act, hround, Option.filter, hover]
    have hrun : ((start t true).run (acts ++ [(now, .finish place duration)])).fleet =
        Round.record duration m.fleet := by
      rw [← run_append, ← hact]
      rfl
    obtain ⟨hle, heq⟩ := hsound.size_standings
    dsimp only
    rw [hact, hsum]
    refine ⟨hshown hrun, hle, heq.trans ?_⟩
    exact forall₂_congr fun i _ => isSome_standing_run t true acts i.serviceId
  · have hcount := Round.standings_of_whole? hsound hs h hgoing
    have hrun : ((start t true).run (acts ++ actsOfRound ⟨0⟩ steps ⟨0⟩ m.rounds.length pool
        duration)).fleet = f' := by
      rw [← run_append, run_of_whole? h ⟨0⟩ ⟨0⟩]
    obtain ⟨last, rfl⟩ := Round.record_of_whole? h
    rw [hsum]
    exact ⟨hshown hrun, hcount⟩

/-- Two instances, one of which is up. A round over them is recorded when it is over, or another
whole one follows; the statuses add up to two. -/
theorem gauges_add_up_to_two :
    let orders : Registration := ⟨"i1", "orders", "10.0.0.5", 8080, .http, .empty⟩
    let billing : Registration := { orders with serviceId := "i2", serviceName := "billing" }
    let steps : List (Timestamp × Round.Step) := [(⟨1⟩, .dispatch),
      (⟨2⟩, .answer "i1" (.succeeded ⟨5⟩ "HTTP 200")), (⟨2⟩, .dispatch),
      (⟨3⟩, .answer "i2" (.timedOut ⟨5⟩))]
    let acts : List (Timestamp × Act) := [(⟨0⟩, .call (.register orders)),
      (⟨0⟩, .call (.register billing)), (⟨1⟩, .begin)] ++ steps.map fun s => (s.1, .step 0 1 s.2)
    let sum := fun f : Fleet => f.standings.tracked .healthy + f.standings.tracked .unhealthy +
      f.standings.tracked .unknown
    (∃ r, ((start ⟨1, 1⟩ true).run acts).rounds[0]? = some r ∧ r.isOver ∧
      let f := (((start ⟨1, 1⟩ true).run acts).act ⟨4⟩ (.finish 0 ⟨3⟩)).fleet
      (∃ meters, f.meters = some meters ∧ meters.ShowsFleet f) ∧
      f.catalog.activeCount = 2 ∧ sum f = 2) ∧
    ∃ s f', Round.whole? 1 steps ⟨3⟩ ((start ⟨1, 1⟩ true).run acts).fleet = some (s, f') ∧
      s.cancelled = false ∧ (∀ step ∈ steps, step.2.IsProbing) ∧
      (∃ meters, f'.meters = some meters ∧ meters.ShowsFleet f') ∧
      f'.catalog.activeCount = 2 ∧ sum f' = 2 := by
  intro orders billing steps acts sum
  obtain ⟨hrecorded, hwhole⟩ := gauges_add_up ⟨1, 1⟩ acts
  constructor
  · have hround : (((start ⟨1, 1⟩ true).run acts).rounds[0]?).map Round.isOver = some true := by
      decide
    obtain ⟨r, hround, hover⟩ := Option.map_eq_some_iff.mp hround
    obtain ⟨hshown, -, -⟩ := hrecorded ⟨4⟩ 0 ⟨3⟩ r hround hover
    exact ⟨r, hround, hover, hshown, by decide, by decide⟩
  · have hround : (Round.whole? 1 steps ⟨3⟩ ((start ⟨1, 1⟩ true).run acts).fleet).map Prod.fst =
        some ⟨2, 2, 2, 0, 0, false⟩ := by decide
    obtain ⟨⟨s, f'⟩, hround, hs⟩ := Option.map_eq_some_iff.mp hround
    obtain rfl : s = ⟨2, 2, 2, 0, 0, false⟩ := hs
    have hprobing : ∀ step ∈ steps, step.2.IsProbing := by simp [steps, Round.Step.IsProbing]
    obtain ⟨hshown, hsum, hcount⟩ := hwhole 1 steps ⟨3⟩ _ f' hround rfl hprobing
    exact ⟨_, f', hround, rfl, hprobing, hshown, hcount, hsum.trans hcount⟩

/-- A probe that ends without an outcome leaves its instance without a standing. The round was not
cut short and the fleet was told nothing while it ran. -/
theorem lost_probe_is_missing_from_sum :
    let orders : Registration := ⟨"i1", "orders", "10.0.0.5", 8080, .http, .empty⟩
    let m := (start ⟨1, 1⟩ true).run [(⟨0⟩, .call (.register orders))]
    let steps : List (Timestamp × Round.Step) := [(⟨1⟩, .dispatch), (⟨2⟩, .lose "i1")]
    ∃ s f' meters, Round.whole? 1 steps ⟨1⟩ m.fleet = some (s, f') ∧ s.cancelled = false ∧
      (∀ step ∈ steps, ∀ c, step.2 ≠ .call c) ∧ s.instances = 1 ∧ f'.catalog.activeCount = 1 ∧
      f'.standings.tracked .healthy + f'.standings.tracked .unhealthy +
        f'.standings.tracked .unknown = 0 ∧
      f'.meters = some meters ∧ meters.instancesActive.toInt = 1 ∧
      ∀ status : Status,
        (meters.instancesByStatus.get? [status.label]).map Int64.toInt = some 0 := by
  intro orders m steps
  have hrun : (Round.whole? 1 steps ⟨1⟩ m.fleet).map (fun last =>
      (last.1, last.2.catalog.activeCount, last.2.standings.size)) =
        some (⟨1, 1, 0, 0, 0, false⟩, 1, 0) := by decide
  obtain ⟨⟨s, f'⟩, hwhole, hend⟩ := Option.map_eq_some_iff.mp hrun
  obtain ⟨hs, hcounts⟩ := Prod.mk.inj hend
  obtain ⟨hactive, hsize⟩ := Prod.mk.inj hcounts
  simp only at hs hactive hsize
  have hmetered : (Round.whole? 1 steps ⟨1⟩ m.fleet).map (fun last => last.2.meters.map fun m =>
      (m.instancesActive.toInt, [Status.healthy, .unhealthy, .unknown].map fun status =>
        (m.instancesByStatus.get? [status.label]).map Int64.toInt)) =
          some (some (1, [some 0, some 0, some 0])) := by decide
  rw [hwhole] at hmetered
  obtain ⟨meters, hmeters, hgauges⟩ := Option.map_eq_some_iff.mp (Option.some.inj hmetered)
  obtain ⟨hfirst, hgauges⟩ := Prod.mk.inj hgauges
  have hstatus : ∀ status : Status,
      (meters.instancesByStatus.get? [status.label]).map Int64.toInt = some 0 := by
    simp only [List.map_cons, List.map_nil, List.cons.injEq, and_true] at hgauges
    intro status
    cases status <;> simp [hgauges]
  refine ⟨s, f', meters, hwhole, by rw [hs], by simp [steps], by rw [hs], hactive, ?_, hmeters,
    hfirst, hstatus⟩
  rw [Standings.sum_tracked, hsize]

end Monitor

end ServiceHealth
