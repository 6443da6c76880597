import Mathlib.Algebra.Group.Nat.Defs
import ServiceHealth.Health.Standing
import ServiceHealth.Proofs.Health.Streak

/-!
# Hysteresis

A standing keeps two counters and no history. Here its status is read off the outcomes alone: the
last full streak decides. Between two full streaks of different kinds the counters fall short of
the thresholds, whatever they were at the start.
-/
namespace ServiceHealth

/-- An outcome with the protocol of its probe and the time at which it is taken into account. -/
structure Reading where
  time : Timestamp
  protocol : Probe.Protocol
  outcome : Probe.Outcome
  deriving DecidableEq, Repr

def Reading.success (r : Reading) : Bool := r.outcome.success

/-- The status that a full streak of successes or failures leads to. -/
def Status.ofSuccess (success : Bool) : Status := if success then .healthy else .unhealthy

theorem Status.ofSuccess_injective : Function.Injective Status.ofSuccess := by
  intro a b h
  cases a <;> cases b <;> simp_all [ofSuccess]

theorem Status.ofSuccess_ne_unknown (success : Bool) : Status.ofSuccess success ≠ .unknown := by
  cases success <;> decide

/-- How many outcomes of one kind in a row change the status. A threshold of zero works like one,
since the first outcome already counts. -/
def Thresholds.needed (t : Thresholds) (success : Bool) : Nat :=
  max 1 (if success then t.recovery else t.failure).toNat

theorem Thresholds.needed_pos (t : Thresholds) (success : Bool) : 0 < t.needed success := by
  unfold needed
  omega

theorem Thresholds.needed_lt (t : Thresholds) (success : Bool) : t.needed success < 2 ^ 32 := by
  have h := (if success then t.recovery else t.failure).toNat_lt
  unfold needed
  omega

/-- Thresholds that are accepted are needed as they are. -/
theorem Thresholds.needed_of_make {failure recovery : UInt32} {t : Thresholds}
    (h : make failure recovery = .ok t) (success : Bool) :
    t.needed success = if success then recovery.toNat else failure.toNat := by
  unfold make at h
  split at h
  · contradiction
  split at h
  · contradiction
  rename_i hf hr
  obtain rfl : (⟨failure, recovery⟩ : Thresholds) = t := by simpa using h
  have hf' : failure.toNat ≠ 0 := fun h0 => hf (UInt32.toNat_inj.mp h0)
  have hr' : recovery.toNat ≠ 0 := fun h0 => hr (UInt32.toNat_inj.mp h0)
  cases success <;> simp only [needed] <;> simp <;> omega

@[simp] theorem countUp_toNat (n : UInt32) :
    (countUp n).toNat = min (n.toNat + 1) (2 ^ 32 - 1) := by
  have hn := n.toNat_lt
  unfold countUp
  split
  · subst n
    decide
  · rename_i h
    have hne : n.toNat ≠ 2 ^ 32 - 1 := fun h0 => h (UInt32.toNat_inj.mp h0)
    rw [UInt32.toNat_add]
    simp only [UInt32.toNat_one]
    omega

namespace Standing

/-- The counter of successes or of failures. -/
def count (s : Standing) (success : Bool) : Nat :=
  (if success then s.successes else s.failures).toNat

/-- One more outcome changes the status. -/
def Turns (t : Thresholds) (s : Standing) (success : Bool) : Prop :=
  s.status ≠ .ofSuccess success ∧ t.needed success ≤ min (s.count success + 1) (2 ^ 32 - 1)

instance (t : Thresholds) (s : Standing) (success : Bool) : Decidable (s.Turns t success) :=
  inferInstanceAs (Decidable (_ ∧ _))

/-- The standing after readings, taken into account one after the other. -/
def after (t : Thresholds) (start : Standing) (readings : List Reading) : Standing :=
  readings.foldl (fun s r => (s.observe t r.time r.protocol r.outcome).1) start

@[simp] theorem after_nil (t : Thresholds) (start : Standing) : start.after t [] = start := rfl

@[simp] theorem after_concat (t : Thresholds) (start : Standing) (readings : List Reading)
    (r : Reading) : start.after t (readings ++ [r]) =
      ((start.after t readings).observe t r.time r.protocol r.outcome).1 := by
  simp [after]

/-- The two halves of `observe` compare words; the same test on numbers. -/
theorem turns_iff (t : Thresholds) (s : Standing) (success : Bool) :
    s.Turns t success ↔ s.status ≠ .ofSuccess success ∧
      (if success then t.recovery else t.failure) ≤
        countUp (if success then s.successes else s.failures) := by
  rw [Turns, UInt32.le_iff_toNat_le, countUp_toNat, Thresholds.needed, count]
  exact and_congr_right fun _ => by omega

section Observe

variable (t : Thresholds) (now : Timestamp) (protocol : Probe.Protocol) (o : Probe.Outcome)
  (s : Standing)

theorem observe_status : (s.observe t now protocol o).1.status =
    if s.Turns t o.success then .ofSuccess o.success else s.status := by
  simp only [turns_iff, observe]
  cases o.success <;> simp only [Bool.false_eq_true, if_true, if_false, succeed, fail,
    Status.ofSuccess] <;> split <;> rfl

theorem observe_count (success : Bool) : (s.observe t now protocol o).1.count success =
    if success = o.success ∧ ¬ s.Turns t o.success then
      min (s.count success + 1) (2 ^ 32 - 1) else 0 := by
  simp only [turns_iff, observe, count]
  cases o.success <;> cases success <;> simp only [Bool.false_eq_true, if_true, if_false, succeed,
    fail, Status.ofSuccess] <;> split <;> simp_all

theorem observe_transition : (s.observe t now protocol o).2 =
    if s.Turns t o.success then some ⟨s.status, .ofSuccess o.success⟩ else none := by
  simp only [turns_iff, observe]
  cases o.success <;> simp only [Bool.false_eq_true, if_true, if_false, succeed, fail,
    Status.ofSuccess] <;> split <;> rfl

end Observe

end Standing

/-- What the counters know of the outcomes since `start`. They never fall short of the closing
streak unless the status already says what the streak would, and they exceed it only as long as
they still hold something from the start. -/
structure Counts (start s : Standing) (kinds : List Bool) : Prop where
  closing_le : ∀ success, s.status ≠ .ofSuccess success →
    min (closing success kinds) (2 ^ 32 - 1) ≤ s.count success
  le_closing : ∀ success, start.count success = 0 ∨ (!success) ∈ kinds →
    s.count success ≤ closing success kinds

theorem Counts.start (start : Standing) : Counts start start [] where
  closing_le := by simp
  le_closing := by simp

theorem Counts.observe {start s : Standing} {kinds : List Bool} (h : Counts start s kinds)
    (t : Thresholds) (now : Timestamp) (protocol : Probe.Protocol) (o : Probe.Outcome) :
    Counts start (s.observe t now protocol o).1 (kinds ++ [o.success]) where
  closing_le success hs := by
    rw [Standing.observe_status] at hs
    rw [Standing.observe_count, closing_concat]
    by_cases hb : o.success = success
    · subst success
      by_cases ht : s.Turns t o.success
      · simp [ht] at hs
      · rw [if_neg ht] at hs
        have := h.closing_le o.success hs
        simp only [ht, not_false_eq_true, and_self, if_true]
        omega
    · simp [hb]
  le_closing success hs := by
    rw [Standing.observe_count, closing_concat]
    split
    · rename_i hb
      obtain ⟨rfl, -⟩ := hb
      have := h.le_closing o.success (by simpa using hs)
      rw [if_pos rfl]
      omega
    · omega

theorem Standing.after_counts (t : Thresholds) (start : Standing) (readings : List Reading) :
    Counts start (start.after t readings) (readings.map Reading.success) := by
  induction readings using List.reverseRecOn with
  | nil => exact .start start
  | append_singleton readings r ih =>
    rw [after_concat, List.map_append]
    exact ih.observe t r.time r.protocol r.outcome

/-- An outcome that completes a full streak leaves the status of its kind. -/
theorem Counts.status_of_full {start s : Standing} {kinds : List Bool} (h : Counts start s kinds)
    {t : Thresholds} {o : Probe.Outcome}
    (hfull : t.needed o.success ≤ closing o.success (kinds ++ [o.success]))
    (now : Timestamp) (protocol : Probe.Protocol) :
    (s.observe t now protocol o).1.status = .ofSuccess o.success := by
  rw [Standing.observe_status]
  split
  · rfl
  · rename_i ht
    by_contra hs
    refine ht ⟨hs, ?_⟩
    have := h.closing_le o.success hs
    have := t.needed_lt o.success
    rw [closing_concat, if_pos rfl] at hfull
    omega

/-- An outcome that completes no full streak leaves the status as it was, once the counter of its
kind is known to hold nothing from the start. -/
theorem Counts.status_of_short {start s : Standing} {kinds : List Bool} (h : Counts start s kinds)
    {t : Thresholds} {o : Probe.Outcome}
    (hshort : ¬ t.needed o.success ≤ closing o.success (kinds ++ [o.success]))
    (hs : start.count o.success = 0 ∨ (!o.success) ∈ kinds)
    (now : Timestamp) (protocol : Probe.Protocol) :
    (s.observe t now protocol o).1.status = s.status := by
  rw [Standing.observe_status, if_neg]
  rintro ⟨-, ht⟩
  have := h.le_closing o.success hs
  rw [closing_concat, if_pos rfl] at hshort
  omega

/-- The last full streak decides on the status, from whatever standing the outcomes begin. -/
theorem Standing.status_after_of_isLastStreak {t : Thresholds} {start : Standing}
    {readings : List Reading} {success : Bool} {p : Nat}
    (h : IsLastStreak t.needed (readings.map Reading.success) success p) :
    (start.after t readings).status = .ofSuccess success := by
  induction readings using List.reverseRecOn generalizing success p with
  | nil => exact absurd h.1.1 (Nat.not_lt_zero p)
  | append_singleton readings r ih =>
    have hcounts := after_counts t start readings
    rw [after_concat]
    rw [List.map_append, List.map_singleton, isLastStreak_concat t.needed_pos] at h
    split at h
    · rename_i hfull
      obtain ⟨rfl, -⟩ := h
      exact hcounts.status_of_full hfull r.time r.protocol
    · rename_i hshort
      by_cases hr : r.success = success
      · rw [observe_status, ih h]
        exact ite_eq_right_iff.mpr fun _ => congrArg Status.ofSuccess hr
      · have hmem : (!r.success) ∈ readings.map Reading.success := by
          rw [← Bool.eq_not.mpr (Ne.symm hr)]
          exact h.1.mem (t.needed_pos success)
        rw [← ih h]
        exact hcounts.status_of_short hshort (.inr hmem) r.time r.protocol

/-- Without a full streak nothing becomes known. -/
theorem Standing.status_after_initial_of_no_streak {t : Thresholds} {readings : List Reading}
    (h : ∀ success p, ¬ EndsStreak success (t.needed success) (readings.map Reading.success) p) :
    (initial.after t readings).status = .unknown := by
  induction readings using List.reverseRecOn with
  | nil => rfl
  | append_singleton readings r ih =>
    rw [List.map_append, List.map_singleton] at h
    have hshort : ¬ t.needed r.success ≤
        closing r.success (readings.map Reading.success ++ [r.success]) :=
      fun hfull => h r.success _ (endsStreak_concat_length.mpr hfull)
    have hcount : initial.count r.success = 0 := by cases r.success <;> rfl
    rw [after_concat]
    refine ((after_counts t initial readings).status_of_short hshort (.inl hcount)
      r.time r.protocol).trans (ih fun success p hp => ?_)
    exact h success p ((endsStreak_concat_of_lt r.success hp.1).mpr hp)

/-- After the first probes a known status has a last full streak behind it. -/
theorem Standing.status_after_initial_iff {t : Thresholds} {readings : List Reading}
    {success : Bool} : (initial.after t readings).status = .ofSuccess success ↔
      ∃ p, IsLastStreak t.needed (readings.map Reading.success) success p := by
  constructor
  · intro hs
    by_contra hnone
    have hno (other : Bool) (p : Nat) :
        ¬ EndsStreak other (t.needed other) (readings.map Reading.success) p := by
      intro hp
      obtain ⟨last, q, hq⟩ := exists_isLastStreak t.needed_pos hp
      have hlast : (initial.after t readings).status = .ofSuccess last :=
        status_after_of_isLastStreak hq
      obtain rfl : last = success := Status.ofSuccess_injective (hlast.symm.trans hs)
      exact hnone ⟨q, hq⟩
    exact Status.ofSuccess_ne_unknown success
      (hs.symm.trans (status_after_initial_of_no_streak hno))
  · rintro ⟨p, hp⟩
    exact status_after_of_isLastStreak hp

/-- The last full streak wins: where full streaks occur one of them ends last, and its kind is the
status, whatever the counters and the status were before. Where none occurs and nothing was known,
nothing is known after. -/
theorem Standing.last_full_streak_wins {failure recovery : UInt32} {t : Thresholds}
    (ht : Thresholds.make failure recovery = .ok t) (start : Standing) (readings : List Reading) :
    let need (success : Bool) : Nat := if success then recovery.toNat else failure.toNat
    let kinds := readings.map Reading.success
    (∀ success p, IsLastStreak need kinds success p →
      (start.after t readings).status = .ofSuccess success) ∧
    ((∃ success p, EndsStreak success (need success) kinds p) →
      ∃ success p, IsLastStreak need kinds success p) ∧
    ((∀ success p, ¬ EndsStreak success (need success) kinds p) → start = .initial →
      (start.after t readings).status = .unknown) := by
  intro need kinds
  have hneed : need = t.needed := funext fun success => (t.needed_of_make ht success).symm
  rw [hneed]
  refine ⟨fun success p h => status_after_of_isLastStreak h, ?_, ?_⟩
  · rintro ⟨success, p, h⟩
    exact exists_isLastStreak t.needed_pos h
  · rintro h rfl
    exact status_after_initial_of_no_streak h

/-- A failure counter restored from before is used up, and still the two successes in the middle
decide. -/
theorem Standing.last_streak_outlasts_restored_counter :
    let restored : Standing := ⟨.healthy, 2, 0, none, none, none⟩
    let failed : Reading := ⟨⟨0⟩, .http, .timedOut ⟨0⟩⟩
    let succeeded : Reading := ⟨⟨0⟩, .http, .succeeded ⟨0⟩ "HTTP 200"⟩
    Thresholds.make 3 2 = .ok ⟨3, 2⟩ ∧
    IsLastStreak (fun success => if success then 2 else 3)
      [false, true, true, false, false] true 2 ∧
    (restored.after ⟨3, 2⟩ [failed, succeeded, succeeded, failed, failed]).status = .healthy := by
  intro restored failed succeeded
  have hlast : IsLastStreak (fun success => if success then 2 else 3)
      [false, true, true, false, false] true 2 := by decide
  have hmake : Thresholds.make 3 2 = .ok ⟨3, 2⟩ := rfl
  exact ⟨hmake, hlast, (last_full_streak_wins hmake restored
    [failed, succeeded, succeeded, failed, failed]).1 true 2 hlast⟩

end ServiceHealth
