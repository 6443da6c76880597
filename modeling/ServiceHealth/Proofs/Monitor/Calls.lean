import ServiceHealth.Proofs.Fleet.AnyOrder
import ServiceHealth.Proofs.Fleet.History
import ServiceHealth.Proofs.Monitor.Basic

/-!
# The calls that acts make

Requests and rounds reach the stores only by calls of the fleet. So the stores hold after acts what
the calls among them leave behind, and what is known of histories of calls is known of the monitor.
-/
namespace ServiceHealth

namespace Api

variable {now : Timestamp} {request : Request} {f : Fleet}

/-- A request without an answer is for no resource. -/
theorem resource?_of_unanswered (h : handle now request f = none) : request.resource? = none := by
  by_contra hsome
  obtain ⟨resource, hresource⟩ := Option.ne_none_iff_exists'.mp hsome
  obtain ⟨path, hpath, hfilter⟩ := Option.bind_eq_some_iff.mp hresource
  obtain ⟨-, hmethod⟩ := Option.filter_eq_some_iff.mp hfilter
  rw [handle, isToken_of_mem_names hmethod, hpath] at h
  contradiction

/-- A request changes the stores by the call that it asks for, if it asks for one. -/
theorem sameStores_receive (now : Timestamp) (f : Fleet) (request : Request) :
    (receive now f (.request request)).SameStores
      (changed now f (request.resource?.bind (change? request))) := by
  rw [receive]
  cases hhandle : handle now request f with
  | none =>
    rw [resource?_of_unanswered hhandle]
    exact ⟨rfl, rfl, rfl⟩
  | some handled =>
    obtain ⟨response, f'⟩ := handled
    rw [Option.map_some, Option.getD_some]
    obtain ⟨resource, hresource, -, -, rfl⟩ | ⟨hresource, -, rfl⟩ := handle_cases hhandle
    · rw [(serves now request f resource).fleet, Option.mem_def.mp hresource]
      exact sameStores_counted resource.label _ _
    · rw [hresource]
      exact ⟨rfl, rfl, rfl⟩

end Api

namespace Fleet

variable {f g h : Fleet}

theorem SameStores.trans (hfg : f.SameStores g) (hgh : g.SameStores h) : f.SameStores h :=
  ⟨hfg.catalog.trans hgh.catalog, hfg.standings.trans hgh.standings, hfg.board.trans hgh.board⟩

theorem SameStores.run (hsame : f.SameStores g) (hf : f.catalog.Keyed)
    (calls : List (Timestamp × Call)) : (f.run calls).SameStores (g.run calls) := by
  induction calls generalizing f g with
  | nil => exact hsame
  | cons call rest ih =>
    exact ih (hsame.perform hf call.1 call.2) (keyed_perform hf call.1 call.2)

/-- An outcome counts exactly if it is for an instance that is active, and then there is a standing;
the other standings stay. -/
theorem Sound.isSome_standing_applyOutcome (hf : f.Sound) (now : Timestamp) (probed : Instance)
    (outcome : Probe.Outcome) (id : String) :
    ((f.applyOutcome now probed outcome).2.standings.get? id).isSome ↔
      (f.standings.get? id).isSome ∨ probed.serviceId = id ∧ f.catalog.isActive id := by
  have hstanding := standing_perform hf.keyed (hf.inStep id) now (.applyOutcome probed outcome)
  have hafter : ((f.perform now (.applyOutcome probed outcome)).2.entry id).standing =
      (f.applyOutcome now probed outcome).2.standings.get? id := rfl
  have hbefore : (f.entry id).standing = f.standings.get? id := rfl
  rw [hafter, hbefore, event?] at hstanding
  rw [hstanding]
  by_cases h : probed.serviceId = id ∧ f.catalog.isActive id
  · simp [h]
  · simp [h]

end Fleet

namespace Monitor

variable {now : Timestamp} {m : Monitor}

def call? (m : Monitor) : Act → Option Fleet.Call
  | .call c => some c
  | .request r => r.resource?.bind (Api.change? r)
  | .step place _ s => m.rounds[place]?.bind fun r => s.call? r
  | .begin => none
  | .finish _ _ => none

/-- The calls that acts make, in their order. -/
def calls (m : Monitor) : List (Timestamp × Act) → List (Timestamp × Fleet.Call)
  | [] => []
  | (now, a) :: rest => ((m.call? a).map fun c => (now, c)).toList ++ (m.act now a).calls rest

theorem sameStores_act (now : Timestamp) (m : Monitor) (a : Act) :
    (m.act now a).fleet.SameStores (Api.changed now m.fleet (m.call? a)) := by
  cases a with
  | call c => exact ⟨rfl, rfl, rfl⟩
  | request r => exact Api.sameStores_receive now m.fleet r
  | begin => exact ⟨rfl, rfl, rfl⟩
  | step place pool s =>
    simp only [act, call?]
    cases hround : m.rounds[place]? with
    | none => exact ⟨rfl, rfl, rfl⟩
    | some r =>
      simp only [Option.bind_some]
      cases hstep : r.step? pool now m.fleet s with
      | none =>
        rw [call?_of_impossible hstep]
        exact ⟨rfl, rfl, rfl⟩
      | some state =>
        rw [← changed_of_step hstep]
        exact ⟨rfl, rfl, rfl⟩
  | finish place duration =>
    simp only [act]
    cases m.rounds[place]?.filter Round.isOver <;> exact ⟨rfl, rfl, rfl⟩

/-- The stores after acts are those after the calls that the acts make. -/
theorem sameStores_run (hm : m.fleet.Sound) (acts : List (Timestamp × Act)) :
    (m.run acts).fleet.SameStores (m.fleet.run (m.calls acts)) := by
  induction acts generalizing m with
  | nil => exact ⟨rfl, rfl, rfl⟩
  | cons a rest ih =>
    obtain ⟨now, a⟩ := a
    have hnext := sameStores_act now m a
    have hsound : (m.act now a).fleet.Sound := (effect_of_act now m a).sound hm
    have hrest := (ih hsound).trans (hnext.run hsound.keyed ((m.act now a).calls rest))
    have hcalls : m.fleet.run (m.calls ((now, a) :: rest)) =
        (Api.changed now m.fleet (m.call? a)).run ((m.act now a).calls rest) := by
      rw [calls]
      cases m.call? a <;> rfl
    rw [hcalls]
    exact hrest

/-- After acts there is a standing under an id exactly if an outcome counted there since the last
reset. -/
theorem isSome_standing_run (t : Thresholds) (metered : Bool) (acts : List (Timestamp × Act))
    (id : String) : (((start t metered).run acts).fleet.standings.get? id).isSome ↔
      (Fleet.empty t metered).readings id ((start t metered).calls acts) ≠ [] := by
  have hsame : ((start t metered).run acts).fleet.SameStores
      ((Fleet.empty t metered).run ((start t metered).calls acts)) :=
    sameStores_run (sound_run t metered []) acts
  have hstanding : ((Fleet.empty t metered).run ((start t metered).calls acts)).standings.get? id =
      Fleet.standingAfter t ((Fleet.empty t metered).readings id ((start t metered).calls acts)) :=
    Fleet.standing_run t metered ((start t metered).calls acts) id
  rw [hsame.standings, hstanding, Fleet.standingAfter]
  split
  · rename_i hnil
    simp [hnil]
  · rename_i hne
    simp [hne]

/-- The acts by which a round is begun, makes steps and is recorded, while nothing else happens. -/
def actsOfRound (began : Timestamp) (steps : List (Timestamp × Round.Step)) (ended : Timestamp)
    (place pool : Nat) (duration : Span) : List (Timestamp × Act) :=
  (began, .begin) :: steps.map (fun s => (s.1, .step place pool s.2)) ++
    [(ended, .finish place duration)]

theorem run_steps {pool : Nat} {steps : List (Timestamp × Round.Step)} {r last : Round}
    {f f' : Fleet} (h : Round.steps? pool steps r f = some (last, f')) (rounds : List Round) :
    Monitor.run ⟨f, rounds ++ [r]⟩ (steps.map fun s => (s.1, .step rounds.length pool s.2)) =
      ⟨f', rounds ++ [last]⟩ := by
  induction steps generalizing r f with
  | nil =>
    obtain ⟨rfl, rfl⟩ := Prod.mk.inj (Option.some.inj h)
    rfl
  | cons step rest ih =>
    obtain ⟨now, s⟩ := step
    obtain ⟨⟨next, between⟩, hstep, hrest⟩ := Option.bind_eq_some_iff.mp h
    have hact : act now ⟨f, rounds ++ [r]⟩ (.step rounds.length pool s) =
        ⟨between, rounds ++ [next]⟩ := by
      simp [act, hstep]
    rw [List.map_cons, run, List.foldl_cons, hact]
    exact ih hrest

/-- A round from its beginning to its end is a run of the monitor. -/
theorem run_of_whole? {pool : Nat} {steps : List (Timestamp × Round.Step)} {duration : Span}
    {s : Round.Summary} {f' : Fleet}
    (h : Round.whole? pool steps duration m.fleet = some (s, f')) (began ended : Timestamp) :
    m.run (actsOfRound began steps ended m.rounds.length pool duration) = ⟨f', m.rounds⟩ := by
  obtain ⟨⟨r, last⟩, hsteps, hend⟩ := Option.bind_eq_some_iff.mp h
  obtain ⟨hover, heq⟩ := Option.ite_none_right_eq_some.mp hend
  obtain ⟨-, rfl⟩ := Prod.mk.inj (Option.some.inj heq)
  -- the round that begins takes the last place
  have hround : m.run
      ((began, .begin) :: steps.map fun s => (s.1, .step m.rounds.length pool s.2)) =
        ⟨last, m.rounds ++ [r]⟩ := run_steps hsteps m.rounds
  have herase : (m.rounds ++ [r]).eraseIdx m.rounds.length = m.rounds := by
    rw [List.eraseIdx_append_of_length_le (Nat.le_refl _)]
    simp
  rw [actsOfRound, ← run_append, hround]
  simp [run, act, Option.filter, hover, herase]

end Monitor

end ServiceHealth
