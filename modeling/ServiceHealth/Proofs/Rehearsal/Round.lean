import ServiceHealth.Fleet.Rehearsal
import ServiceHealth.Proofs.Fleet.Going

/-!
# Rehearsals of a round

A rehearsal decides by its clock and its scripts what happens next, but all that it does to its
round is a step of the round. So what holds for every sequence of steps holds of a rehearsal.
-/
namespace ServiceHealth.Rehearsal

variable {α : Type} {p : Plan} {r next last : Rehearsal α}

/-- The probes under way are those of some flights that are about to end and those of the flights
that the rehearsal has; and a rehearsal that is asked to stop sends no more. -/
structure InFlight (ending : List Flight) (r : Rehearsal α) : Prop where
  distinct : (r.round.flying ++ r.round.waiting).Pairwise (·.serviceId ≠ ·.serviceId)
  flights : ((ending ++ r.flights).map (·.probed)).Perm r.round.flying
  quiet : r.stopping → r.round.waiting = []

/-- A rehearsal between two of its steps, within a round. -/
structure Steady (p : Plan) (r : Rehearsal α) : Prop extends InFlight [] r where
  full : r.round.dispatch? p.pool = none

/-- A rehearsal goes on within a round. -/
structure Conducts (p : Plan) (r next : Rehearsal α) : Prop where
  goes : ∃ l, r.round.Goes p.pool (Watch.allows r.stopping) r.fleet l next.round next.fleet ∧
    next.starts.map (·.probed) = r.starts.map (·.probed) ++ l
  stopping : next.stopping = r.stopping
  phase : next.phase = r.phase
  events : next.events <:+ r.events

theorem Conducts.trans (h : Conducts p r next) (h' : Conducts p next last) :
    Conducts p r last := by
  obtain ⟨l, hgoes, hstarts⟩ := h.goes
  obtain ⟨l', hgoes', hstarts'⟩ := h'.goes
  rw [h.stopping] at hgoes'
  refine ⟨⟨l ++ l', hgoes.trans hgoes', ?_⟩, h'.stopping.trans h.stopping,
    h'.phase.trans h.phase, h'.events.trans h.events⟩
  rw [hstarts', hstarts, List.append_assoc]

/-- Nothing that belongs to the round changes. -/
theorem conducts_of_eq (round : next.round = r.round) (fleet : next.fleet = r.fleet)
    (starts : next.starts = r.starts) (stopping : next.stopping = r.stopping)
    (phase : next.phase = r.phase) (events : next.events <:+ r.events) : Conducts p r next := by
  refine ⟨⟨[], ?_, ?_⟩, stopping, phase, events⟩
  · rw [round, fleet]
    exact .refl ..
  · rw [starts, List.append_nil]

theorem Conducts.refl (p : Plan) (r : Rehearsal α) : Conducts p r r :=
  conducts_of_eq rfl rfl rfl rfl rfl (List.suffix_refl _)

section Land

variable (p : Plan) (r : Rehearsal α) (flight : Flight)

theorem land_round_flying : (r.land p flight).round.flying =
    r.round.flying.eraseP (·.serviceId = flight.probed.serviceId) := by
  unfold land
  split <;> rfl

theorem land_round_waiting : (r.land p flight).round.waiting = r.round.waiting := by
  unfold land
  split <;> rfl

theorem land_flights : (r.land p flight).flights = r.flights := by
  unfold land
  split <;> rfl

theorem land_stopping : (r.land p flight).stopping = r.stopping := by
  unfold land
  split <;> rfl

end Land

theorem InFlight.find? {flight : Flight} {ending : List Flight}
    (h : InFlight (flight :: ending) r) :
    r.round.flying.find? (·.serviceId = flight.probed.serviceId) = some flight.probed :=
  Round.find?_of_distinct (List.pairwise_append.mp h.distinct).1 (h.flights.subset (by simp))

/-- A flight that ends is the answer of a probe, or its loss. -/
theorem conducts_land {flight : Flight} {ending : List Flight}
    (h : InFlight (flight :: ending) r) : Conducts p r (r.land p flight) := by
  unfold land
  split
  · rename_i outcome houtcome
    exact ⟨⟨[], Round.goes_of_answer (fun _ _ => rfl) h.find? (p.clock r.time) outcome r.fleet,
      (List.append_nil _).symm⟩, rfl, rfl, List.suffix_refl _⟩
  · exact ⟨⟨[], Round.goes_of_lose (fun _ => rfl) h.find? r.fleet, (List.append_nil _).symm⟩,
      rfl, rfl, List.suffix_refl _⟩

theorem InFlight.land {flight : Flight} {ending : List Flight}
    (h : InFlight (flight :: ending) r) : InFlight ending (r.land p flight) := by
  constructor
  · rw [land_round_flying, land_round_waiting]
    exact h.distinct.sublist (List.eraseP_sublist.append_right _)
  · rw [land_round_flying, land_flights]
    exact (h.flights.trans (Round.eraseP_perm h.find?)).cons_inv
  · rw [land_stopping, land_round_waiting]
    exact h.quiet

/-- Flights that end one after the other. -/
theorem conducts_foldl_land {ending : List Flight} (h : InFlight ending r) :
    Conducts p r (ending.foldl (land p) r) ∧ InFlight [] (ending.foldl (land p) r) := by
  induction ending generalizing r with
  | nil => exact ⟨.refl p r, h⟩
  | cons flight rest ih =>
    obtain ⟨hrest, hflight⟩ := ih h.land
    exact ⟨(conducts_land h).trans hrest, hflight⟩

/-- A rehearsal right after a probe has begun: the instance is noted, and its answer is taken off
the script. -/
def started (r : Rehearsal α) (i : Instance) (scripts : Scripts) : Rehearsal α :=
  { r with
    scripts := scripts
    starts := r.starts ++ [Start.mk r.time i]
    maxInFlight := max r.maxInFlight (r.flights.length + 1) }

theorem launch_eq (p : Plan) (r : Rehearsal α) (i : Instance) :
    ∃ (reply : Reply) (scripts : Scripts), r.launch p i =
      if reply.delay = 0 then (r.started i scripts).land p ⟨r.time + reply.delay, i, reply.outcome⟩
      else { r.started i scripts with
        flights := r.flights ++ [⟨r.time + reply.delay, i, reply.outcome⟩] } := by
  unfold launch takeReply
  cases (r.scripts.get? i.serviceId).getD [] with
  | nil => exact ⟨.usual, r.scripts, rfl⟩
  | cons reply rest => exact ⟨reply, r.scripts.insert i.serviceId rest, rfl⟩

/-- A rehearsal that is to stop has no probe to begin. -/
theorem InFlight.stopping_eq_false (h : InFlight [] r) {i : Instance} {round : Round}
    (hd : r.round.dispatch? p.pool = some (i, round)) : r.stopping = false := by
  obtain ⟨hwaiting, -⟩ := Round.dispatch?_eq_some hd
  by_contra hstopping
  have hquiet := h.quiet (by simpa using hstopping)
  simp [hquiet] at hwaiting

theorem conducts_started (h : InFlight [] r) {i : Instance} {round : Round}
    (hd : r.round.dispatch? p.pool = some (i, round)) (scripts : Scripts) :
    Conducts p r ({ r with round := round }.started i scripts) := by
  have hallowed : Watch.allows r.stopping .dispatch := by
    simp [Watch.allows, h.stopping_eq_false hd]
  refine ⟨⟨[i], Round.goes_of_dispatch hallowed hd r.fleet, ?_⟩, rfl, rfl, List.suffix_refl _⟩
  exact List.map_append

theorem InFlight.started (h : InFlight [] r) {flight : Flight} {round : Round}
    (hd : r.round.dispatch? p.pool = some (flight.probed, round)) (scripts : Scripts) :
    InFlight [flight] ({ r with round := round }.started flight.probed scripts) := by
  obtain ⟨hwaiting, -, hround⟩ := Round.dispatch?_eq_some hd
  have hflying : round.flying = r.round.flying ++ [flight.probed] := by rw [hround]
  constructor
  · have hdistinct := h.distinct
    rw [hwaiting] at hdistinct
    show (round.flying ++ round.waiting).Pairwise _
    rwa [hflying, List.append_assoc]
  · show (flight.probed :: r.flights.map (·.probed)).Perm round.flying
    rw [hflying]
    exact (h.flights.cons flight.probed).trans (List.perm_append_singleton _ _).symm
  · intro hstopping
    exact absurd ((h.stopping_eq_false hd).symm.trans hstopping) Bool.false_ne_true

/-- A flight that is about to end may as well stay. -/
theorem InFlight.stay {flight : Flight} (h : InFlight [flight] r) :
    InFlight [] { r with flights := r.flights ++ [flight] } := by
  refine ⟨h.distinct, ?_, h.quiet⟩
  exact ((List.perm_append_singleton flight r.flights).map _).trans h.flights

/-- A probe begins. -/
theorem conducts_launch (h : InFlight [] r) {i : Instance} {round : Round}
    (hd : r.round.dispatch? p.pool = some (i, round)) :
    Conducts p r ({ r with round := round }.launch p i) ∧
    InFlight [] ({ r with round := round }.launch p i) ∧
    ({ r with round := round }.launch p i).round.waiting = round.waiting := by
  obtain ⟨reply, scripts, hlaunch⟩ := launch_eq p { r with round := round } i
  let flight : Flight := ⟨r.time + reply.delay, i, reply.outcome⟩
  have hstarted := conducts_started h hd scripts
  have hair : InFlight [flight] ({ r with round := round }.started i scripts) :=
    h.started hd scripts
  rw [hlaunch]
  split
  · exact ⟨hstarted.trans (conducts_land hair), hair.land, land_round_waiting ..⟩
  · exact ⟨hstarted.trans (conducts_of_eq rfl rfl rfl rfl rfl (List.suffix_refl _)), hair.stay,
      rfl⟩

/-- Probes begin as long as the pool has room, and then none can begin. -/
theorem conducts_launchAll (h : InFlight [] r) {n : Nat} (hn : r.round.waiting.length ≤ n) :
    Conducts p r (launchAll p n r) ∧ Steady p (launchAll p n r) := by
  induction n generalizing r with
  | zero =>
    have hwaiting : r.round.waiting = [] := List.length_eq_zero_iff.mp (Nat.le_zero.mp hn)
    refine ⟨.refl p r, h, ?_⟩
    simp [launchAll, Round.dispatch?, hwaiting]
  | succ n ih =>
    rw [launchAll]
    split
    · rename_i i round hd
      obtain ⟨hwaiting, -, -⟩ := Round.dispatch?_eq_some hd
      obtain ⟨hlaunch, hair, hrest⟩ := conducts_launch h hd
      have hlength : round.waiting.length ≤ n := by
        rw [hwaiting, List.length_cons] at hn
        omega
      obtain ⟨hall, hsteady⟩ := ih hair (hrest ▸ hlength)
      exact ⟨hlaunch.trans hall, hsteady⟩
    · rename_i hd
      exact ⟨.refl p r, h, hd⟩

/-- The flights that end first end and others begin. -/
theorem conducts_landFirst (h : InFlight [] r) (time : Nat) :
    Conducts p r (landFirst p time r) ∧ Steady p (landFirst p time r) := by
  unfold landFirst
  rw [List.partition_eq_filter_filter]
  dsimp only
  have hair : InFlight (r.flights.filter (·.due ≤ time))
      { r with time := time, flights := r.flights.filter (not ∘ (·.due ≤ time)) } := by
    have hperm := List.filter_append_perm (fun flight : Flight => flight.due ≤ time) r.flights
    refine ⟨h.distinct, ?_, h.quiet⟩
    exact (hperm.map _).trans h.flights
  have hparted : Conducts p r
      { r with time := time, flights := r.flights.filter (not ∘ (·.due ≤ time)) } :=
    conducts_of_eq rfl rfl rfl rfl rfl (List.suffix_refl _)
  obtain ⟨hland, hair⟩ := conducts_foldl_land (p := p) hair
  obtain ⟨hall, hsteady⟩ := conducts_launchAll (p := p) hair (Nat.le_refl _)
  exact ⟨(hparted.trans hland).trans hall, hsteady⟩

/-- What happens from outside changes the fleet by calls only. -/
def Event.IsPlain : Event α → Prop
  | .stop => True
  | .act action => ∀ f, ∃ calls, (action f).2 = f.run calls
  | .script _ _ => True

theorem Steady.congr (h : Steady p r) (round : next.round = r.round)
    (flights : next.flights = r.flights) (stopping : next.stopping = r.stopping) :
    Steady p next := by
  refine ⟨⟨?_, ?_, ?_⟩, ?_⟩
  · rw [round]
    exact h.distinct
  · rw [round, flights]
    exact h.flights
  · rw [round, stopping]
    exact h.quiet
  · rw [round]
    exact h.full

/-- Nothing is left to do in a round where no probe is under way and none can begin. -/
theorem Steady.isOver (h : Steady p r) (hflights : r.flights = []) : r.round.isOver := by
  have hflying : r.round.flying = [] := by
    have hperm := h.flights
    rw [hflights] at hperm
    exact hperm.symm.eq_nil
  by_contra hover
  have hspace := Round.dispatch?_isSome p.pool hflying hover
  rw [h.full] at hspace
  contradiction

/-- A round that begins, and that is cut short at once if the rehearsal is to stop. -/
def opened (due : Nat) (r : Rehearsal α) : Rehearsal α :=
  { r with
    phase := .probing due r.time
    round := if r.stopping then (Round.ofFleet r.fleet).cancel else .ofFleet r.fleet }

theorem inFlight_opened (hkeyed : r.fleet.catalog.Keyed) (hflights : r.flights = []) (due : Nat) :
    InFlight [] (r.opened due) := by
  have hactive := Watch.distinct_active hkeyed
  have hflying : (r.opened due).round.flying = [] := by
    unfold opened
    dsimp only
    split
    · exact Round.flying_cancel _
    · rfl
  constructor
  · rw [hflying]
    unfold opened
    dsimp only
    split
    · rw [Round.waiting_cancel]
      exact .nil
    · exact hactive
  · rw [hflying]
    exact List.Perm.of_eq (by simp [opened, hflights])
  · intro hstopping
    have hstopping : r.stopping = true := hstopping
    simp only [opened, hstopping, if_true, Round.waiting_cancel]

theorem steady_beginRound (hkeyed : r.fleet.catalog.Keyed) (hflights : r.flights = [])
    (due : Nat) :
    Conducts p (r.opened due) (r.beginRound p due) ∧ Steady p (r.beginRound p due) := by
  have hlength : (r.opened due).round.waiting.length ≤
      (Round.ofFleet r.fleet).waiting.length := by
    unfold opened
    dsimp only
    split
    · rw [Round.waiting_cancel]
      exact Nat.zero_le _
    · exact Nat.le_refl _
  exact conducts_launchAll (inFlight_opened hkeyed hflights due) hlength

/-- What a rehearsal does by itself: in a round flights end, or the round does if there are none;
between rounds the next one begins. -/
theorem next_cases {time : Nat} {act : Rehearsal α → Rehearsal α}
    (h : r.next p = some (time, act)) :
    (∃ due began, r.phase = .probing due began ∧
      (act = landFirst p time ∨ r.flights = [] ∧ act = endRound p due began)) ∨
    ∃ due, r.phase = .resting due ∧ act = fun r => { r with time := time }.beginRound p due := by
  unfold next at h
  split at h
  · rename_i due began hphase
    split at h
    · obtain ⟨rfl, rfl⟩ := Prod.mk.inj (Option.some.inj h)
      exact .inl ⟨due, began, hphase, .inl rfl⟩
    · rename_i hmin
      obtain ⟨rfl, rfl⟩ := Prod.mk.inj (Option.some.inj h)
      exact .inl ⟨due, began, hphase, .inr ⟨by simpa using hmin, rfl⟩⟩
  · rename_i due hphase
    obtain ⟨rfl, rfl⟩ := Prod.mk.inj (Option.some.inj h)
    exact .inr ⟨due, hphase, rfl⟩
  · contradiction

/-- A rehearsal goes on with what happens from outside or with what it does by itself. -/
theorem advance_cases (p : Plan) (r : Rehearsal α) :
    (∃ time event rest, r.events = (time, event) :: rest ∧
      r.advance p = r.happen time event rest) ∨
    (∃ time act, r.next p = some (time, act) ∧ r.advance p = act r) ∨ r.advance p = r := by
  unfold advance
  split
  · rename_i time act when event rest hnext hevents
    split
    · exact .inl ⟨when, event, rest, hevents, rfl⟩
    · exact .inr (.inl ⟨time, act, hnext, rfl⟩)
  · rename_i time act hnext hevents
    exact .inr (.inl ⟨time, act, hnext, rfl⟩)
  · rename_i when event rest hnext hevents
    exact .inl ⟨when, event, rest, hevents, rfl⟩
  · exact .inr (.inr rfl)

section Happen

variable {time : Nat} {rest : List (Nat × Event α)}

theorem conducts_act {action : Fleet → α × Fleet} (hplain : (Event.act action).IsPlain)
    (hevents : r.events = (time, .act action) :: rest) :
    Conducts p r (r.happen time (.act action) rest) := by
  obtain ⟨calls, hcalls⟩ := hplain r.fleet
  refine ⟨⟨[], ?_, (List.append_nil _).symm⟩, rfl, rfl, ?_⟩
  · show r.round.Goes p.pool _ r.fleet [] r.round (action r.fleet).2
    rw [hcalls]
    exact Round.goes_of_calls (fun _ => rfl) calls
  · show rest <:+ r.events
    rw [hevents]
    exact List.suffix_cons _ _

theorem conducts_script {replies : List (String × List Reply)} {answer : α}
    (hevents : r.events = (time, .script replies answer) :: rest) :
    Conducts p r (r.happen time (.script replies answer) rest) :=
  conducts_of_eq rfl rfl rfl rfl rfl (hevents ▸ List.suffix_cons _ _)

/-- A rehearsal that is asked to stop begins no more probes. -/
theorem steady_stop (h : Steady p r) (time : Nat) (rest : List (Nat × Event α)) :
    Steady p (r.happen time .stop rest) := by
  refine ⟨⟨?_, ?_, fun _ => Round.waiting_cancel r.round⟩, ?_⟩
  · show (r.round.cancel.flying ++ r.round.cancel.waiting).Pairwise _
    rw [Round.flying_cancel, Round.waiting_cancel, List.append_nil]
    exact (List.pairwise_append.mp h.distinct).1
  · show (([] ++ r.flights).map Flight.probed).Perm r.round.cancel.flying
    rw [Round.flying_cancel]
    exact h.flights
  · show r.round.cancel.dispatch? p.pool = none
    simp only [Round.dispatch?, Round.waiting_cancel]

end Happen

/-- A rehearsal of a single round has done what a round over a fleet can do. The second fleet is the
one that the round left behind, or has reached. -/
structure Plays (p : Plan) (f fleet : Fleet) (r : Rehearsal α) : Prop where
  run : (Round.ofFleet f).Goes p.pool (fun _ => true) f (r.starts.map (·.probed)) r.round fleet
  phase : (∃ due began, r.phase = .probing due began) ∧ Steady p r ∧ fleet = r.fleet ∨
    (∃ time, r.phase = .ended time) ∧ r.round.isOver
  plain : ∀ e ∈ r.events, e.2.IsPlain

variable {f fleet : Fleet} {rest : List (Nat × Event α)}

theorem Plays.conducts (h : Plays p f r.fleet r) {due began : Nat}
    (hprobing : r.phase = .probing due began) (hgo : Conducts p r next)
    (hsteady : Steady p next) : Plays p f next.fleet next := by
  obtain ⟨l, hgoes, hstarts⟩ := hgo.goes
  refine ⟨?_, .inl ⟨⟨due, began, hgo.phase.trans hprobing⟩, hsteady, rfl⟩,
    fun e he => h.plain e (hgo.events.subset he)⟩
  rw [hstarts]
  exact h.run.trans hgoes.weaken

/-- After the round nothing happens to it any more. -/
theorem Plays.stays (h : Plays p f fleet r) (hover : r.round.isOver)
    (hended : ∃ time, next.phase = .ended time) (round : next.round = r.round)
    (starts : next.starts = r.starts) (events : next.events <:+ r.events) :
    Plays p f fleet next := by
  refine ⟨?_, .inr ⟨hended, round ▸ hover⟩, fun e he => h.plain e (events.subset he)⟩
  rw [starts, round]
  exact h.run

theorem Plays.happen (h : Plays p f fleet r) {time : Nat} {event : Event α}
    (hevents : r.events = (time, event) :: rest) :
    ∃ fleet', Plays p f fleet' (r.happen time event rest) := by
  have hrest : rest <:+ r.events := hevents ▸ List.suffix_cons _ _
  have hplain : event.IsPlain := h.plain (time, event) (hevents ▸ List.mem_cons_self)
  obtain ⟨⟨due, began, hprobing⟩, hsteady, rfl⟩ | ⟨⟨ended, hended⟩, hover⟩ := h.phase
  · cases event with
    | act action =>
      exact ⟨_, h.conducts hprobing (conducts_act hplain hevents) (hsteady.congr rfl rfl rfl)⟩
    | script replies answer =>
      exact ⟨_, h.conducts hprobing (conducts_script hevents) (hsteady.congr rfl rfl rfl)⟩
    | stop =>
      have hcancel : r.round.Goes p.pool (fun _ => true) r.fleet [] r.round.cancel r.fleet :=
        Round.goes_of_cancel p.pool r.fleet rfl
      refine ⟨r.fleet, ?_, .inl ⟨⟨due, began, ?_⟩, steady_stop hsteady time rest, rfl⟩,
        fun e he => h.plain e (hrest.subset he)⟩
      · have hrun := h.run.trans hcancel
        rwa [List.append_nil] at hrun
      · simp only [Rehearsal.happen, hprobing]
  · cases event with
    | act action => exact ⟨fleet, h.stays hover ⟨ended, hended⟩ rfl rfl hrest⟩
    | script replies answer => exact ⟨fleet, h.stays hover ⟨ended, hended⟩ rfl rfl hrest⟩
    | stop =>
      have hcancel : r.round.cancel = r.round := by
        rw [Round.cancel, (Round.isOver_iff.mp hover).1]
        rfl
      refine ⟨fleet, h.stays hover ⟨ended, ?_⟩ hcancel rfl hrest⟩
      simp only [Rehearsal.happen, hended]

theorem Plays.advance (h : Plays p f fleet r) (hsingle : p.interval = none) :
    ∃ fleet', Plays p f fleet' (r.advance p) := by
  obtain ⟨time, event, rest, hevents, heq⟩ | ⟨time, act, hnext, heq⟩ | heq := advance_cases p r
  · rw [heq]
    exact h.happen hevents
  · rw [heq]
    obtain ⟨⟨due, began, hprobing⟩, hsteady, rfl⟩ | ⟨⟨ended, hended⟩, -⟩ := h.phase
    · obtain ⟨due, began, -, rfl | ⟨hflights, rfl⟩⟩ | ⟨due, hresting, -⟩ := next_cases hnext
      · obtain ⟨hland, hrest⟩ := conducts_landFirst (p := p) hsteady.toInFlight time
        exact ⟨_, h.conducts hprobing hland hrest⟩
      · refine ⟨r.fleet, h.stays (hsteady.isOver hflights) ⟨r.time, ?_⟩ rfl rfl
          (List.suffix_refl _)⟩
        simp only [endRound, hsingle]
      · rw [hprobing] at hresting
        contradiction
    · simp only [Rehearsal.next, hended] at hnext
      contradiction
  · rw [heq]
    exact ⟨fleet, h⟩

theorem Plays.goOn (h : Plays p f fleet r) (hsingle : p.interval = none) (n : Nat) :
    ∃ fleet', Plays p f fleet' (r.goOn p n) := by
  induction n generalizing fleet r with
  | zero => exact ⟨fleet, h⟩
  | succ n ih =>
    obtain ⟨fleet', h'⟩ := h.advance hsingle
    exact ih h'

/-- A rehearsal of a single round is a round: it has done what a round over its fleet can do, it has
begun the probes which that round sent, and its summary is that of the round. -/
theorem rehearsal_is_round (p : Plan) (hsingle : p.interval = none) (t : Thresholds)
    (metered : Bool) (calls : List (Timestamp × Fleet.Call)) (scripts : Scripts)
    (events : List (Nat × Event α)) (hplain : ∀ e ∈ events, e.2.IsPlain) (stopping : Bool) :
    let f := (Fleet.empty t metered).run calls
    ∃ fleet, Plays p f fleet ((ofFleet f scripts events stopping).run p) := by
  intro f
  have hkeyed : f.catalog.Keyed := Fleet.keyed_run t metered calls
  let r : Rehearsal α := ofFleet f scripts events stopping
  obtain ⟨hgo, hsteady⟩ := steady_beginRound (p := p) (r := r) hkeyed rfl 0
  have hopened : (Round.ofFleet f).Goes p.pool (fun _ => true) f [] (r.opened 0).round f := by
    unfold opened
    dsimp only
    split
    · exact Round.goes_of_cancel p.pool f rfl
    · exact .refl ..
  obtain ⟨l, hgoes, hstarts⟩ := hgo.goes
  have hstart : Plays p f (r.beginRound p 0).fleet (r.beginRound p 0) := by
    refine ⟨?_, .inl ⟨⟨0, 0, hgo.phase⟩, hsteady, rfl⟩,
      fun e he => hplain e (hgo.events.subset he)⟩
    rw [hstarts]
    exact hopened.trans hgoes.weaken
  unfold run
  rw [hsingle]
  exact hstart.goOn hsingle _

end ServiceHealth.Rehearsal
