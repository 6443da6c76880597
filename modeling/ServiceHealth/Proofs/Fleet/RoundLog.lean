import ServiceHealth.Fleet.Round
import ServiceHealth.Proofs.Fleet.Presence

/-!
# The log of a round

What happens to the probes of a round, as someone outside would write it down: probes are sent, they
are answered while their instance is there or after it has left, and some are lost. All that a step
can do to a round is said once, by `Move`.
-/
namespace ServiceHealth.Round

/-- Something that happens to a probe. Of an answer it is known whether the instance was active when
it came in. -/
inductive Event where
  | sent (i : Instance)
  | answered (i : Instance) (active : Bool) (applied : Option Applied)
  | lost (i : Instance)

namespace Event

def sent? : Event → Option Instance
  | .sent i => some i
  | _ => none

def ended? : Event → Option Instance
  | .sent _ => none
  | .answered i _ _ => some i
  | .lost i => some i

/-- An answer for an instance that is there. -/
def isTimely : Event → Bool
  | .answered _ active _ => active
  | _ => false

/-- An answer for an instance that has left. -/
def isLate : Event → Bool
  | .answered _ active _ => !active
  | _ => false

/-- An answer that counts and changes the status. -/
def isTurn : Event → Bool
  | .answered _ _ applied => applied.any (·.transition.isSome)
  | _ => false

def isLoss : Event → Bool
  | .lost _ => true
  | _ => false

end Event

/-- The probes that were sent, in their order. -/
def sent (log : List Event) : List Instance := log.filterMap Event.sent?

/-- The probes that ended, in their order. -/
def ended (log : List Event) : List Instance := log.filterMap Event.ended?

def event? (pool : Nat) (now : Timestamp) (r : Round) (f : Fleet) : Step → Option Event
  | .dispatch => (r.dispatch? pool).map fun d => .sent d.1
  | .answer id outcome =>
      (r.flying.find? (·.serviceId = id)).map fun i =>
        .answered i (f.catalog.isActive i.serviceId) (f.applyOutcome now i outcome).1
  | .lose id => (r.flying.find? (·.serviceId = id)).map .lost
  | .cancel => none
  | .call _ => none

def log (pool : Nat) : List (Timestamp × Step) → Round → Fleet → List Event
  | [], _, _ => []
  | (now, s) :: rest, r, f =>
      match r.step? pool now f s with
      | some (next, f') => (r.event? pool now f s).toList ++ log pool rest next f'
      | none => []

@[simp] theorem sent_append (first second : List Event) :
    sent (first ++ second) = sent first ++ sent second := List.filterMap_append

@[simp] theorem ended_append (first second : List Event) :
    ended (first ++ second) = ended first ++ ended second := List.filterMap_append

@[simp] theorem sent_sent (i : Instance) : sent [.sent i] = [i] := rfl

@[simp] theorem sent_answered (i : Instance) (active : Bool) (applied : Option Applied) :
    sent [.answered i active applied] = [] := rfl

@[simp] theorem sent_lost (i : Instance) : sent [.lost i] = [] := rfl

@[simp] theorem ended_sent (i : Instance) : ended [.sent i] = [] := rfl

@[simp] theorem ended_answered (i : Instance) (active : Bool) (applied : Option Applied) :
    ended [.answered i active applied] = [i] := rfl

@[simp] theorem ended_lost (i : Instance) : ended [.lost i] = [i] := rfl

/-- Every event is of a probe that is sent or ends. -/
theorem length_log (log : List Event) : log.length = (sent log).length + (ended log).length := by
  induction log with
  | nil => rfl
  | cons e rest ih =>
    have hsplit : e :: rest = [e] ++ rest := rfl
    rw [hsplit, sent_append, ended_append]
    cases e <;> simp [ih] <;> omega

/-- A probe that ends is answered in time, answered late, or lost. -/
theorem length_ended (log : List Event) : (ended log).length =
    log.countP Event.isTimely + log.countP Event.isLate + log.countP Event.isLoss := by
  induction log with
  | nil => rfl
  | cons e rest ih =>
    have hsplit : e :: rest = [e] ++ rest := rfl
    rw [hsplit, ended_append, List.countP_append, List.countP_append, List.countP_append,
      List.length_append, ih]
    cases e with
    | sent i => simp [Event.isTimely, Event.isLate, Event.isLoss]
    | answered i active applied =>
      cases active <;> simp [Event.isTimely, Event.isLate, Event.isLoss] <;> omega
    | lost i =>
      simp [Event.isTimely, Event.isLate, Event.isLoss]
      omega

/-- Only a step that loses a probe means a loss. -/
theorem countP_isLoss_event? {pool : Nat} {now : Timestamp} {r : Round} {f : Fleet} {s : Step}
    (hkept : ∀ id, s ≠ .lose id) : (r.event? pool now f s).toList.countP Event.isLoss = 0 := by
  cases s with
  | dispatch => cases hd : r.dispatch? pool <;> simp [event?, hd, Event.isLoss]
  | answer id outcome =>
    cases hi : r.flying.find? (·.serviceId = id) <;> simp [event?, hi, Event.isLoss]
  | lose id => exact absurd rfl (hkept id)
  | cancel => rfl
  | call c => rfl

/-- All that a step can do to a round, with the event that it means. -/
inductive Move (pool : Nat) (r : Round) : Option Event → Round → Prop where
  | send (i : Instance) (rest : List Instance) (next : r.waiting = i :: rest)
      (space : r.flying.length < room pool) :
      Move pool r (some (.sent i)) { r with
        waiting := rest
        flying := r.flying ++ [i]
        summary := { r.summary with dispatched := r.summary.dispatched + 1 } }
  | answer (i : Instance) (active : Bool) (applied : Option Applied)
      (flying : r.flying.find? (·.serviceId = i.serviceId) = some i)
      (timely : applied.isSome = active) :
      Move pool r (some (.answered i active applied))
        { r.landed i.serviceId with summary := r.summary.count applied }
  | lose (i : Instance) (flying : r.flying.find? (·.serviceId = i.serviceId) = some i) :
      Move pool r (some (.lost i)) (r.landed i.serviceId)
  | cancel : Move pool r none r.cancel
  | stay : Move pool r none r

theorem dispatch?_eq_some {pool : Nat} {r next : Round} {i : Instance}
    (h : r.dispatch? pool = some (i, next)) :
    r.waiting = i :: next.waiting ∧ r.flying.length < room pool ∧ next = { r with
      waiting := next.waiting
      flying := r.flying ++ [i]
      summary := { r.summary with dispatched := r.summary.dispatched + 1 } } := by
  simp only [dispatch?] at h
  split at h
  · contradiction
  · rename_i j rest hwaiting
    split at h
    · rename_i hspace
      obtain ⟨rfl, rfl⟩ := Prod.mk.inj (Option.some.inj h)
      exact ⟨hwaiting, hspace, rfl⟩
    · contradiction

theorem find?_self {l : List Instance} {id : String} {i : Instance}
    (h : l.find? (·.serviceId = id) = some i) :
    i.serviceId = id ∧ l.find? (·.serviceId = i.serviceId) = some i := by
  have hid : i.serviceId = id := by simpa using List.find?_some h
  exact ⟨hid, hid ▸ h⟩

/-- The instance with an id is found where no id stands twice. -/
theorem find?_of_distinct {l : List Instance} (hl : l.Pairwise (·.serviceId ≠ ·.serviceId))
    {i : Instance} (hi : i ∈ l) : l.find? (·.serviceId = i.serviceId) = some i := by
  induction l with
  | nil => contradiction
  | cons j rest ih =>
    obtain ⟨hj, hrest⟩ := List.pairwise_cons.mp hl
    obtain rfl | hmem := List.mem_cons.mp hi
    · rw [List.find?_cons_of_pos (by simp)]
    · rw [List.find?_cons_of_neg (by simpa using hj i hmem), ih hrest hmem]

@[simp] theorem waiting_cancel (r : Round) : r.cancel.waiting = [] := by
  unfold cancel
  split
  · rename_i hwaiting
    exact List.isEmpty_iff.mp hwaiting
  · rfl

@[simp] theorem flying_cancel (r : Round) : r.cancel.flying = r.flying := by
  unfold cancel
  split <;> rfl

/-- A step that is possible is a move. -/
theorem move_of_step {pool : Nat} {now : Timestamp} {r next : Round} {f f' : Fleet} {s : Step}
    (h : r.step? pool now f s = some (next, f')) : Move pool r (r.event? pool now f s) next := by
  cases s with
  | dispatch =>
    obtain ⟨⟨i, round⟩, hd, heq⟩ := Option.map_eq_some_iff.mp h
    obtain ⟨rfl, rfl⟩ := Prod.mk.inj heq
    obtain ⟨hwaiting, hspace, hnext⟩ := dispatch?_eq_some hd
    rw [event?, hd, hnext]
    exact .send i round.waiting hwaiting hspace
  | answer id outcome =>
    obtain ⟨i, hi, heq⟩ := Option.map_eq_some_iff.mp h
    obtain ⟨-, hflying⟩ := find?_self hi
    rw [event?, hi]
    simp only [land] at heq
    obtain ⟨rfl, rfl⟩ := Prod.mk.inj heq
    exact .answer i _ _ hflying (Fleet.applyOutcome_isSome f now i outcome)
  | lose id =>
    obtain ⟨i, hi, heq⟩ := Option.map_eq_some_iff.mp h
    obtain ⟨hid, hflying⟩ := find?_self hi
    obtain ⟨rfl, rfl⟩ := Prod.mk.inj heq
    rw [event?, hi, ← hid]
    exact .lose i hflying
  | cancel =>
    obtain ⟨rfl, rfl⟩ := Prod.mk.inj (Option.some.inj h)
    exact .cancel
  | call c =>
    obtain ⟨rfl, rfl⟩ := Prod.mk.inj (Option.some.inj h)
    exact .stay

/-- The fleet after a step: an answer is applied, a call is carried out, and nothing else touches
the fleet. -/
theorem fleet_of_step {pool : Nat} {now : Timestamp} {r next : Round} {f f' : Fleet} {s : Step}
    (h : r.step? pool now f s = some (next, f')) : f' = f ∨ ∃ c, f' = (f.perform now c).2 := by
  cases s with
  | dispatch =>
    obtain ⟨d, -, heq⟩ := Option.map_eq_some_iff.mp h
    exact .inl (Prod.mk.inj heq).2.symm
  | answer id outcome =>
    obtain ⟨i, -, heq⟩ := Option.map_eq_some_iff.mp h
    exact .inr ⟨.applyOutcome i outcome, (Prod.mk.inj heq).2.symm⟩
  | lose id =>
    obtain ⟨i, -, heq⟩ := Option.map_eq_some_iff.mp h
    exact .inl (Prod.mk.inj heq).2.symm
  | cancel => exact .inl (Prod.mk.inj (Option.some.inj h)).2.symm
  | call c => exact .inr ⟨c, (Prod.mk.inj (Option.some.inj h)).2.symm⟩

/-- What holds at the start of a log and is kept by every move holds of every run. -/
theorem log_induction {pool : Nat} {P : Round → List Event → Prop}
    (move : ∀ r e next past, P r past → Move pool r e next → P next (past ++ e.toList))
    {steps : List (Timestamp × Step)} {r last : Round} {f f' : Fleet} {past : List Event}
    (start : P r past) (h : steps? pool steps r f = some (last, f')) :
    P last (past ++ log pool steps r f) := by
  induction steps generalizing r f past with
  | nil =>
    obtain ⟨rfl, rfl⟩ := Prod.mk.inj (Option.some.inj h)
    simpa [log] using start
  | cons step rest ih =>
    obtain ⟨now, s⟩ := step
    obtain ⟨⟨next, between⟩, hstep, hrest⟩ := Option.bind_eq_some_iff.mp h
    rw [log, hstep, ← List.append_assoc]
    exact ih (move r _ next past start (move_of_step hstep)) hrest

end ServiceHealth.Round
