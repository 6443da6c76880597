import ServiceHealth.Proofs.Fleet.RoundLog

/-!
# The books of a round

The summary of a round against its log. Probes go out in the order of the list that was drawn up
when the round began, never more at a time than the pool has room for, and each that went out is
booked once: as applied, as discarded, or as lost. A round that was not cut short has worked through
its list.
-/
namespace ServiceHealth.Round

/-- The summary agrees with the log of a round over a list of instances. -/
structure Books (pool : Nat) (all : List Instance) (r : Round) (log : List Event) : Prop where
  instances : r.summary.instances = all.length
  sent : sent log = all.take r.summary.dispatched
  waiting : r.waiting = if r.summary.cancelled then [] else all.drop r.summary.dispatched
  dispatched_le : r.summary.dispatched ≤ all.length
  dispatched_lt : r.summary.cancelled → r.summary.dispatched < all.length
  room : r.flying.length ≤ room pool
  flying : (ended log ++ r.flying).Perm (Round.sent log)
  applied : r.summary.applied = log.countP Event.isTimely
  discarded : r.summary.discarded = log.countP Event.isLate
  transitions : r.summary.transitions = log.countP Event.isTurn

variable {pool : Nat} {all : List Instance} {r next : Round} {log : List Event}

theorem books_ofFleet (pool : Nat) (f : Fleet) : Books pool f.catalog.active (ofFleet f) [] where
  instances := rfl
  sent := rfl
  waiting := rfl
  dispatched_le := Nat.zero_le _
  dispatched_lt h := Bool.noConfusion h
  room := Nat.zero_le _
  flying := .nil
  applied := rfl
  discarded := rfl
  transitions := rfl

theorem eraseP_perm {l : List Instance} {i : Instance}
    (h : l.find? (·.serviceId = i.serviceId) = some i) :
    l.Perm (i :: l.eraseP (·.serviceId = i.serviceId)) := by
  induction l with
  | nil => contradiction
  | cons j rest ih =>
    rw [List.find?_cons] at h
    split at h
    · rename_i hj
      obtain rfl : j = i := Option.some.inj h
      rw [List.eraseP_cons_of_pos (by simp)]
    · rename_i hj
      rw [List.eraseP_cons_of_neg (by simpa using hj)]
      exact ((ih h).cons j).trans (.swap i j _)

section Summary

variable (s : Summary) (a : Option Applied)

@[simp] theorem Summary.count_instances : (s.count a).instances = s.instances := by cases a <;> rfl

@[simp] theorem Summary.count_dispatched : (s.count a).dispatched = s.dispatched := by
  cases a <;> rfl

@[simp] theorem Summary.count_cancelled : (s.count a).cancelled = s.cancelled := by cases a <;> rfl

@[simp] theorem Summary.count_applied :
    (s.count a).applied = s.applied + (if a.isSome then 1 else 0) := by cases a <;> rfl

@[simp] theorem Summary.count_discarded :
    (s.count a).discarded = s.discarded + (if a.isSome then 0 else 1) := by cases a <;> rfl

@[simp] theorem Summary.count_transitions : (s.count a).transitions =
    s.transitions + (if a.any (·.transition.isSome) then 1 else 0) := by cases a <;> rfl

end Summary

@[simp] theorem landed_waiting (r : Round) (id : String) : (r.landed id).waiting = r.waiting := rfl

@[simp] theorem landed_summary (r : Round) (id : String) : (r.landed id).summary = r.summary := rfl

/-- A probe that ends goes from those under way to those that ended. -/
theorem Books.landed (h : Books pool all r log) {i : Instance}
    (hi : r.flying.find? (·.serviceId = i.serviceId) = some i) :
    (r.landed i.serviceId).flying.length + 1 = r.flying.length ∧
    (ended log ++ [i] ++ (r.landed i.serviceId).flying).Perm (Round.sent log) := by
  have hperm := eraseP_perm hi
  refine ⟨by simpa [Round.landed] using hperm.length_eq.symm, ?_⟩
  rw [List.append_assoc]
  exact (hperm.symm.append_left (ended log)).trans h.flying

theorem Books.send (h : Books pool all r log) {i : Instance} {rest : List Instance}
    (hnext : r.waiting = i :: rest) (hspace : r.flying.length < Round.room pool) :
    Books pool all { r with
      waiting := rest
      flying := r.flying ++ [i]
      summary := { r.summary with dispatched := r.summary.dispatched + 1 } }
      (log ++ [.sent i]) := by
  have hcancelled : r.summary.cancelled = false := by
    cases hc : r.summary.cancelled with
    | false => rfl
    | true => simp [h.waiting, hc] at hnext
  have hdrop : all.drop r.summary.dispatched = i :: rest := by
    simpa [hcancelled, hnext] using h.waiting.symm
  have hlt : r.summary.dispatched < all.length := by
    have := congrArg List.length hdrop
    simp only [List.length_drop, List.length_cons] at this
    omega
  have hi : all[r.summary.dispatched]? = some i := by
    rw [← List.head?_drop, hdrop, List.head?_cons]
  constructor
  case instances => exact h.instances
  case sent => rw [sent_append, sent_sent, h.sent, List.take_add_one, hi, Option.toList_some]
  case waiting =>
    have htail : all.drop (r.summary.dispatched + 1) = rest := by
      rw [← List.drop_drop, hdrop, List.drop_one, List.tail_cons]
    simp [hcancelled, htail]
  case dispatched_le => exact hlt
  case dispatched_lt => simp [hcancelled]
  case room =>
    rw [List.length_append, List.length_singleton]
    omega
  case flying => simpa using h.flying.append_right [i]
  case applied => simpa [Event.isTimely] using h.applied
  case discarded => simpa [Event.isLate] using h.discarded
  case transitions => simpa [Event.isTurn] using h.transitions

theorem Books.answer (h : Books pool all r log) {i : Instance} {active : Bool}
    {applied : Option Applied} (hi : r.flying.find? (·.serviceId = i.serviceId) = some i)
    (htimely : applied.isSome = active) :
    Books pool all { r.landed i.serviceId with summary := r.summary.count applied }
      (log ++ [.answered i active applied]) := by
  obtain ⟨hlength, hflying⟩ := h.landed hi
  have hroom := h.room
  constructor
  case instances => rw [Summary.count_instances, h.instances]
  case sent => simpa using h.sent
  case waiting => simpa using h.waiting
  case dispatched_le => simpa using h.dispatched_le
  case dispatched_lt => simpa using h.dispatched_lt
  case room => exact Nat.le_of_succ_le (hlength.trans_le hroom)
  case flying => simpa using hflying
  case applied => cases active <;> simp [Event.isTimely, h.applied, htimely]
  case discarded => cases active <;> simp [Event.isLate, h.discarded, htimely]
  case transitions =>
    rw [Summary.count_transitions, h.transitions, List.countP_append, List.countP_singleton]
    rfl

theorem Books.lose (h : Books pool all r log) {i : Instance}
    (hi : r.flying.find? (·.serviceId = i.serviceId) = some i) :
    Books pool all (r.landed i.serviceId) (log ++ [.lost i]) := by
  obtain ⟨hlength, hflying⟩ := h.landed hi
  have hroom := h.room
  constructor
  case instances => exact h.instances
  case sent => simpa using h.sent
  case waiting => exact h.waiting
  case dispatched_le => exact h.dispatched_le
  case dispatched_lt => exact h.dispatched_lt
  case room => exact Nat.le_of_succ_le (hlength.trans_le hroom)
  case flying => simpa using hflying
  case applied => simpa [Event.isTimely] using h.applied
  case discarded => simpa [Event.isLate] using h.discarded
  case transitions => simpa [Event.isTurn] using h.transitions

/-- A round that is cut short with instances waiting has not worked through its list. -/
theorem Books.cancel (h : Books pool all r log) : Books pool all r.cancel log := by
  unfold Round.cancel
  split
  · exact h
  · rename_i hwaiting
    have hlt : r.summary.dispatched < all.length := by
      by_contra hle
      refine hwaiting (List.isEmpty_iff.mpr (h.waiting.trans ?_))
      split
      · rfl
      · exact List.drop_eq_nil_of_le (Nat.le_of_not_lt hle)
    exact { h with waiting := rfl, dispatched_lt := fun _ => hlt }

/-- Every move keeps the books. -/
theorem Books.move (h : Books pool all r log) {e : Option Event} (hmove : Move pool r e next) :
    Books pool all next (log ++ e.toList) := by
  cases hmove with
  | send i rest hnext hspace => exact h.send hnext hspace
  | answer i active applied hflying htimely => exact h.answer hflying htimely
  | lose i hflying => exact h.lose hflying
  | cancel => simpa using h.cancel
  | stay => simpa using h

theorem isOver_iff : r.isOver ↔ r.waiting = [] ∧ r.flying = [] := by
  rw [isOver, Bool.and_eq_true, List.isEmpty_iff, List.isEmpty_iff]

theorem books_of_steps {f f' : Fleet} {steps : List (Timestamp × Step)}
    (h : steps? pool steps (ofFleet f) f = some (r, f')) :
    Books pool f.catalog.active r (Round.log pool steps (ofFleet f) f) :=
  log_induction (fun _ _ _ _ hbooks hmove => hbooks.move hmove) (books_ofFleet pool f) h

/-- What was dispatched has ended or is under way. -/
theorem Books.length_ended (h : Books pool all r log) :
    (ended log).length + r.flying.length = r.summary.dispatched := by
  rw [← List.length_append, h.flying.length_eq, h.sent]
  exact List.length_take_of_le h.dispatched_le

theorem Books.length_log_le (h : Books pool all r log) :
    log.length ≤ 2 * r.summary.instances := by
  have hended := h.length_ended
  have hsent : (Round.sent log).length = r.summary.dispatched := by
    rw [h.sent, List.length_take_of_le h.dispatched_le]
  have hle := h.dispatched_le
  have hinstances := h.instances
  rw [length_log]
  omega

/-- Each probe that ended was applied, discarded or lost. -/
theorem Books.balance (h : Books pool all r log) :
    r.summary.applied + r.summary.discarded + log.countP Event.isLoss + r.flying.length =
      r.summary.dispatched := by
  rw [h.applied, h.discarded, ← Round.length_ended]
  exact h.length_ended

/-- A round that is over has worked through its list exactly if it was not cut short. -/
theorem Books.complete_iff (h : Books pool all r log) (hover : r.isOver) :
    r.summary.dispatched = r.summary.instances ↔ r.summary.cancelled = false := by
  obtain ⟨hwaiting, -⟩ := isOver_iff.mp hover
  rw [h.instances]
  cases hcancelled : r.summary.cancelled with
  | true =>
    have hlt := h.dispatched_lt hcancelled
    simp [hlt.ne]
  | false =>
    have hdrop : all.drop r.summary.dispatched = [] := by
      simpa [hcancelled, hwaiting] using h.waiting.symm
    have hle := List.drop_eq_nil_iff.mp hdrop
    simp [Nat.le_antisymm h.dispatched_le hle]

/-- A probe under way can be answered at any time. -/
theorem answer_isSome {i : Instance} (hi : i ∈ r.flying) (now : Timestamp) (f : Fleet)
    (outcome : Probe.Outcome) : (r.step? pool now f (.answer i.serviceId outcome)).isSome := by
  rw [step?, Option.isSome_map, List.find?_isSome]
  exact ⟨i, hi, by simp⟩

/-- Where no probe is under way one can be sent, unless the round is over. -/
theorem dispatch?_isSome (pool : Nat) (hflying : r.flying = []) (hover : ¬ r.isOver) :
    (r.dispatch? pool).isSome := by
  rw [isOver_iff] at hover
  cases hwaiting : r.waiting with
  | nil => exact absurd ⟨hwaiting, hflying⟩ hover
  | cons i rest =>
    have hroom : 0 < room pool := Nat.lt_of_lt_of_le Nat.one_pos (Nat.le_max_left 1 pool)
    simp [dispatch?, hwaiting, hflying, hroom]

/-- Without steps that lose a probe no loss is logged. -/
theorem countP_isLoss_log {steps : List (Timestamp × Step)}
    (hkept : ∀ s ∈ steps, ∀ id, s.2 ≠ .lose id) (r : Round) (f : Fleet) :
    (Round.log pool steps r f).countP Event.isLoss = 0 := by
  induction steps generalizing r f with
  | nil => rfl
  | cons step rest ih =>
    obtain ⟨hstep, hrest⟩ := List.forall_mem_cons.mp hkept
    rw [Round.log]
    split
    · rw [List.countP_append, countP_isLoss_event? hstep, ih hrest]
    · rfl

/-- A round accounts for every probe. At every moment of a round that runs beside any calls, with
any answers in any order, at most as many probes are under way as the pool has room for; probes were
sent to the first instances of the list of those that were active at the start, each once and as it
was then; and what was sent is what ended and what is under way. The summary counts the instances of
the list, the answers for instances that were active when they came in, those for instances that
were not, and the changes of status. It goes on until it is over, at the latest after two events for
each instance; then all that was sent was applied, discarded or lost, and everything on the list was
sent exactly if the round was not cut short. -/
theorem round_accounts_for_every_probe (pool : Nat) (f : Fleet)
    (steps : List (Timestamp × Step)) (r : Round) (f' : Fleet)
    (h : steps? pool steps (ofFleet f) f = some (r, f')) :
    let all := f.catalog.active
    let log := Round.log pool steps (ofFleet f) f
    r.flying.length ≤ max 1 pool ∧
    (sent log).map Instance.target = (all.take r.summary.dispatched).map Instance.target ∧
    (ended log ++ r.flying).Perm (sent log) ∧
    r.summary.instances = all.length ∧
    r.summary.applied = log.countP Event.isTimely ∧
    r.summary.discarded = log.countP Event.isLate ∧
    r.summary.transitions = log.countP Event.isTurn ∧
    log.length ≤ 2 * r.summary.instances ∧
    (∀ i ∈ r.flying, ∀ now outcome,
      (r.step? pool now f' (.answer i.serviceId outcome)).isSome) ∧
    (r.flying = [] → ¬ r.isOver → (r.dispatch? pool).isSome) ∧
    (r.isOver →
      r.summary.applied + r.summary.discarded + log.countP Event.isLoss = r.summary.dispatched ∧
      ((∀ s ∈ steps, ∀ id, s.2 ≠ .lose id) →
        r.summary.applied + r.summary.discarded = r.summary.dispatched) ∧
      (r.summary.dispatched = r.summary.instances ↔ r.summary.cancelled = false)) := by
  intro all log
  have hbooks : Books pool all r log := books_of_steps h
  refine ⟨hbooks.room, congrArg _ hbooks.sent, hbooks.flying, hbooks.instances, hbooks.applied,
    hbooks.discarded, hbooks.transitions, hbooks.length_log_le,
    fun i hi now outcome => answer_isSome hi now f' outcome, dispatch?_isSome pool, fun hover => ?_⟩
  have hbalance : r.summary.applied + r.summary.discarded + log.countP Event.isLoss =
      r.summary.dispatched := by
    simpa [(isOver_iff.mp hover).2] using hbooks.balance
  refine ⟨hbalance, fun hkept => ?_, hbooks.complete_iff hover⟩
  rwa [countP_isLoss_log hkept] at hbalance

/-- With room for one probe at a time, an instance that leaves while it is probed is still probed
and its answer is discarded; the other one's counts. -/
theorem round_accounts_for_probe_of_departed :
    let orders : Registration := ⟨"i1", "orders", "10.0.0.5", 8080, .http, .empty⟩
    let billing : Registration := { orders with serviceId := "i2", serviceName := "billing" }
    let f := (Fleet.empty ⟨1, 1⟩ false).run [(⟨0⟩, .register orders), (⟨0⟩, .register billing)]
    let steps : List (Timestamp × Step) := [(⟨1⟩, .dispatch), (⟨2⟩, .answer "i1" (.timedOut ⟨5⟩)),
      (⟨2⟩, .dispatch), (⟨3⟩, .call (.deregister "i2")),
      (⟨4⟩, .answer "i2" (.succeeded ⟨5⟩ "HTTP 200"))]
    ∃ r f', steps? 1 steps (ofFleet f) f = some (r, f') ∧ r.isOver ∧
      r.summary = ⟨2, 2, 1, 1, 1, false⟩ ∧
      r.summary.applied + r.summary.discarded = r.summary.dispatched ∧
      (sent (Round.log 1 steps (ofFleet f) f)).map Instance.target =
        [(Instance.ofRegistration orders ⟨0⟩).target,
          (Instance.ofRegistration billing ⟨0⟩).target] := by
  intro orders billing f steps
  have hrun : (steps? 1 steps (ofFleet f) f).map (fun last => (last.1.isOver, last.1.summary)) =
      some (true, ⟨2, 2, 1, 1, 1, false⟩) := by decide
  obtain ⟨⟨r, f'⟩, hsteps, hend⟩ := Option.map_eq_some_iff.mp hrun
  obtain ⟨hover, hsummary⟩ := Prod.mk.inj hend
  obtain ⟨-, hsent, -, -, -, -, -, -, -, -, hdone⟩ :=
    round_accounts_for_every_probe 1 f steps r f' hsteps
  have hkept : ∀ s ∈ steps, ∀ id, s.2 ≠ .lose id := by simp [steps]
  refine ⟨r, f', hsteps, hover, hsummary, (hdone hover).2.1 hkept, ?_⟩
  rw [hsent, hsummary]
  decide

end ServiceHealth.Round
