import Mathlib.Data.List.Chain
import ServiceHealth.Proofs.Health.Hysteresis

/-!
# Changes of status

Outcomes that are taken into account one after the other cause changes of status. Each change takes
the status where the one before left it. It also uses up outcomes of its own, as many as its kind
needs: those that the counters hold are used up by no change so far.
-/
namespace ServiceHealth

/-- Changes that lead from one status to another, each from where the one before ended. -/
structure Leads (first last : Status) (changes : List Transition) : Prop where
  head : ∀ c ∈ changes.head?, c.source = first
  linked : changes.IsChain fun c d => d.source = c.target
  proper : ∀ c ∈ changes, c.source ≠ c.target ∧ c.target ≠ .unknown
  last : last = (changes.getLast?.map (·.target)).getD first

theorem leads_nil (s : Status) : Leads s s [] where
  head := by simp
  linked := .nil
  proper := by simp
  last := rfl

/-- A change in front of others that begin where it ends. -/
theorem Leads.cons {first next last : Status} {changes : List Transition}
    (h : Leads next last changes) (hne : first ≠ next) (hknown : next ≠ .unknown) :
    Leads first last (⟨first, next⟩ :: changes) where
  head := by simp
  linked := List.isChain_cons.mpr ⟨h.head, h.linked⟩
  proper c hc := by
    obtain rfl | hc := List.mem_cons.mp hc
    · exact ⟨hne, hknown⟩
    · exact h.proper c hc
  last := by
    rw [h.last, List.getLast?_cons]
    cases changes.getLast? <;> rfl

/-- The outcomes that changes use up. -/
def Thresholds.cost (t : Thresholds) (changes : List Transition) : Nat :=
  t.needed true * changes.countP (·.target = .healthy) +
    t.needed false * changes.countP (·.target = .unhealthy)

theorem Thresholds.cost_append (t : Thresholds) (first second : List Transition) :
    t.cost (first ++ second) = t.cost first + t.cost second := by
  simp only [cost, List.countP_append, Nat.mul_add]
  omega

theorem Thresholds.cost_singleton (t : Thresholds) (source : Status) (success : Bool) :
    t.cost [⟨source, .ofSuccess success⟩] = t.needed success := by
  cases success <;> simp [cost, Status.ofSuccess]

namespace Standing

/-- The changes of status that readings cause, in their order. -/
def changes (t : Thresholds) (s : Standing) : List Reading → List Transition
  | [] => []
  | r :: rest =>
      let (next, change) := s.observe t r.time r.protocol r.outcome
      change.toList ++ next.changes t rest

theorem changes_cons (t : Thresholds) (s : Standing) (r : Reading) (rest : List Reading) :
    s.changes t (r :: rest) = (s.observe t r.time r.protocol r.outcome).2.toList ++
      (s.observe t r.time r.protocol r.outcome).1.changes t rest := rfl

theorem after_cons (t : Thresholds) (s : Standing) (r : Reading) (rest : List Reading) :
    s.after t (r :: rest) = (s.observe t r.time r.protocol r.outcome).1.after t rest := rfl

/-- The outcomes that the counters hold. -/
def held (s : Standing) : Nat := s.count true + s.count false

section Observe

variable (t : Thresholds) (now : Timestamp) (protocol : Probe.Protocol) (o : Probe.Outcome)
  (s : Standing)

/-- What one more outcome changes can stand in front of all that comes later. -/
theorem leads_observe {last : Status} {later : List Transition}
    (h : Leads (s.observe t now protocol o).1.status last later) :
    Leads s.status last ((s.observe t now protocol o).2.toList ++ later) := by
  rw [observe_status] at h
  rw [observe_transition]
  by_cases ht : s.Turns t o.success
  · rw [if_pos ht] at h ⊢
    exact h.cons ht.1 (Status.ofSuccess_ne_unknown o.success)
  · rw [if_neg ht] at h ⊢
    exact h

/-- One more outcome is held or used up, and those that were held may be forgotten. -/
theorem cost_observe_le : t.cost (s.observe t now protocol o).2.toList +
    (s.observe t now protocol o).1.held ≤ s.held + 1 := by
  rw [observe_transition]
  by_cases ht : s.Turns t o.success
  · have hheld : (s.observe t now protocol o).1.held = 0 := by simp [held, observe_count, ht]
    have hneeded := ht.2
    rw [if_pos ht, Option.toList_some, t.cost_singleton, hheld]
    cases hsuccess : o.success <;> rw [hsuccess] at hneeded <;> unfold held <;> omega
  · have hnone : t.cost (none : Option Transition).toList = 0 := rfl
    rw [if_neg ht, hnone, held, observe_count, observe_count]
    unfold held
    cases hsuccess : o.success <;> rw [hsuccess] at ht <;>
      simp only [ht, reduceCtorEq, not_false_eq_true, and_true, if_true, if_false] <;> omega

end Observe

theorem leads_changes (t : Thresholds) (s : Standing) (readings : List Reading) :
    Leads s.status (s.after t readings).status (s.changes t readings) := by
  induction readings generalizing s with
  | nil => exact leads_nil s.status
  | cons r rest ih =>
    rw [changes_cons, after_cons]
    exact s.leads_observe t r.time r.protocol r.outcome (ih _)

/-- All outcomes together pay for all changes and for what the counters hold in the end. -/
theorem cost_changes_le (t : Thresholds) (s : Standing) (readings : List Reading) :
    t.cost (s.changes t readings) + (s.after t readings).held ≤ s.held + readings.length := by
  induction readings generalizing s with
  | nil => simp [changes, Thresholds.cost]
  | cons r rest ih =>
    have hfirst := cost_observe_le t r.time r.protocol r.outcome s
    have hrest := ih (s.observe t r.time r.protocol r.outcome).1
    rw [changes_cons, after_cons, t.cost_append, List.length_cons]
    omega

/-- Changes of status form a chain and cost outcomes. From the initial standing the first change
takes the unknown status, each later one the status where the one before ended; every change is to
another status and never to the unknown one; and the standing ends with the status of the last. As
many outcomes as the thresholds ask for come in for each change, so that no list of outcomes causes
more changes than it can pay for. -/
theorem changes_are_chained_and_paid_for {failure recovery : UInt32} {t : Thresholds}
    (ht : Thresholds.make failure recovery = .ok t) (readings : List Reading) :
    let changes := initial.changes t readings
    (∀ c ∈ changes.head?, c.source = .unknown) ∧
    changes.IsChain (fun c d => d.source = c.target) ∧
    (∀ c ∈ changes, c.source ≠ c.target ∧ c.target ≠ .unknown) ∧
    (initial.after t readings).status = (changes.getLast?.map (·.target)).getD .unknown ∧
    recovery.toNat * changes.countP (·.target = .healthy) +
      failure.toNat * changes.countP (·.target = .unhealthy) ≤ readings.length := by
  intro changes
  have hleads := initial.leads_changes t readings
  have hcost := initial.cost_changes_le t readings
  have hheld : initial.held = 0 := rfl
  rw [Thresholds.cost, t.needed_of_make ht, t.needed_of_make ht, hheld, Nat.zero_add] at hcost
  exact ⟨hleads.head, hleads.linked, hleads.proper, hleads.last, Nat.le_of_add_right_le hcost⟩

/-- Seven outcomes pay for a recovery, a failure and another recovery, and no more. -/
theorem changes_are_chained_and_paid_for_exactly :
    let failed : Reading := ⟨⟨0⟩, .http, .timedOut ⟨0⟩⟩
    let succeeded : Reading := ⟨⟨0⟩, .http, .succeeded ⟨0⟩ "HTTP 200"⟩
    let readings := [succeeded, succeeded, failed, failed, failed, succeeded, succeeded]
    Thresholds.make 3 2 = .ok ⟨3, 2⟩ ∧
    initial.changes ⟨3, 2⟩ readings =
      [⟨.unknown, .healthy⟩, ⟨.healthy, .unhealthy⟩, ⟨.unhealthy, .healthy⟩] ∧
    (initial.after ⟨3, 2⟩ readings).status = .healthy ∧ 2 * 2 + 3 * 1 ≤ readings.length := by
  intro failed succeeded readings
  have hmake : Thresholds.make 3 2 = .ok ⟨3, 2⟩ := rfl
  have hchanges : initial.changes ⟨3, 2⟩ readings =
      [⟨.unknown, .healthy⟩, ⟨.healthy, .unhealthy⟩, ⟨.unhealthy, .healthy⟩] := by decide
  obtain ⟨-, -, -, hlast, hpaid⟩ := changes_are_chained_and_paid_for hmake readings
  rw [hchanges] at hlast hpaid
  exact ⟨hmake, hchanges, hlast, hpaid⟩

end Standing

end ServiceHealth
