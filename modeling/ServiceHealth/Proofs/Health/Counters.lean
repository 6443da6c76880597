import ServiceHealth.Proofs.Health.Hysteresis

/-!
# What the counters count

Every outcome is answered with a change of status or with none, and a change sets both counters back
to zero. So a counter is the length of the streak of its kind with which the outcomes after the last
change end, as far as thirty-two bits count, and it stays below the threshold of its kind as long as
the status is not what that kind leads to.
-/
namespace ServiceHealth

/-- Among answers to outcomes, the last one that is a change of status stands at position `p`,
counted from one; position zero says that none is. -/
structure IsLastChange (answers : List (Option Transition)) (p : Nat) : Prop where
  change : p ≠ 0 → ∃ c, answers[p - 1]? = some (some c)
  none_later : ∀ a ∈ answers.drop p, a = none

theorem isLastChange_nil_iff {p : Nat} : IsLastChange [] p ↔ p = 0 := by
  constructor
  · intro h
    by_contra hp
    simpa using h.change hp
  · rintro rfl
    exact ⟨fun h => absurd rfl h, by simp⟩

theorem IsLastChange.le_length {answers : List (Option Transition)} {p : Nat}
    (h : IsLastChange answers p) : p ≤ answers.length := by
  by_cases hp : p = 0
  · omega
  · obtain ⟨c, hc⟩ := h.change hp
    have := (List.getElem?_eq_some_iff.mp hc).1
    omega

/-- One more answer is the last change itself, or it leaves the last change where it was. -/
theorem isLastChange_concat {answers : List (Option Transition)} {a : Option Transition} {p : Nat} :
    IsLastChange (answers ++ [a]) p ↔
      if a.isSome then p = answers.length + 1 else IsLastChange answers p := by
  have hdrop (h : p ≤ answers.length) : (answers ++ [a]).drop p = answers.drop p ++ [a] :=
    List.drop_append_of_le_length h
  have hget (h : p ≤ answers.length) (hp : p ≠ 0) : (answers ++ [a])[p - 1]? = answers[p - 1]? :=
    List.getElem?_append_left (by omega)
  cases a with
  | some c =>
    rw [if_pos Option.isSome_some]
    constructor
    · intro h
      have hle := h.le_length
      rw [List.length_append, List.length_singleton] at hle
      by_contra hp
      have hshort : p ≤ answers.length := by omega
      have := h.none_later (some c) (by rw [hdrop hshort]; simp)
      contradiction
    · rintro rfl
      exact ⟨fun _ => ⟨c, by simp⟩, by simp⟩
  | none =>
    rw [if_neg (by simp)]
    constructor
    · intro h
      have hle := h.le_length
      rw [List.length_append, List.length_singleton] at hle
      have hshort : p ≤ answers.length := by
        by_contra hp
        obtain rfl : p = answers.length + 1 := by omega
        simpa using h.change (by omega)
      refine ⟨fun hp => hget hshort hp ▸ h.change hp, fun b hb => h.none_later b ?_⟩
      rw [hdrop hshort]
      exact List.mem_append_left _ hb
    · intro h
      have hshort := h.le_length
      refine ⟨fun hp => (hget hshort hp).symm ▸ h.change hp, fun b hb => ?_⟩
      rw [hdrop hshort, List.mem_append, List.mem_singleton] at hb
      exact hb.elim (h.none_later b) id

namespace Standing

/-- What readings are answered with, in their order: the change of status that each of them causes,
if it causes one. -/
def answers (t : Thresholds) (s : Standing) : List Reading → List (Option Transition)
  | [] => []
  | r :: rest =>
      let (next, change) := s.observe t r.time r.protocol r.outcome
      change :: next.answers t rest

theorem length_answers (t : Thresholds) (s : Standing) (readings : List Reading) :
    (s.answers t readings).length = readings.length := by
  induction readings generalizing s with
  | nil => rfl
  | cons r rest ih => exact congrArg (· + 1) (ih _)

theorem answers_concat (t : Thresholds) (s : Standing) (readings : List Reading) (r : Reading) :
    s.answers t (readings ++ [r]) = s.answers t readings ++
      [((s.after t readings).observe t r.time r.protocol r.outcome).2] := by
  induction readings generalizing s with
  | nil => rfl
  | cons first rest ih => exact congrArg (_ :: ·) (ih _)

theorem exists_isLastChange (t : Thresholds) (s : Standing) (readings : List Reading) :
    ∃ p, IsLastChange (s.answers t readings) p := by
  induction readings using List.reverseRecOn with
  | nil => exact ⟨0, isLastChange_nil_iff.mpr rfl⟩
  | append_singleton readings r ih =>
    simp only [answers_concat, isLastChange_concat]
    split
    · exact ⟨_, rfl⟩
    · exact ih

section Observe

variable (t : Thresholds) (now : Timestamp) (protocol : Probe.Protocol) (o : Probe.Outcome)
  (s : Standing)

/-- An outcome leaves nothing in the counter of the other kind. -/
theorem observe_count_other : (s.observe t now protocol o).1.count (!o.success) = 0 := by
  rw [observe_count, if_neg (by simp)]

/-- After an outcome a counter that could still change the status is not full. -/
theorem observe_count_lt {success : Bool}
    (hs : (s.observe t now protocol o).1.status ≠ .ofSuccess success) :
    (s.observe t now protocol o).1.count success < t.needed success := by
  have hpos := t.needed_pos success
  rw [observe_status] at hs
  rw [observe_count]
  split
  · rename_i hb
    obtain ⟨rfl, ht⟩ := hb
    rw [if_neg ht] at hs
    by_contra hfull
    exact ht ⟨hs, by omega⟩
  · exact hpos

end Observe

/-- From the initial standing the counters hold the streak that the outcomes since the last change
end with. -/
theorem count_after_initial {t : Thresholds} {readings : List Reading} {p : Nat}
    (h : IsLastChange (initial.answers t readings) p) (success : Bool) :
    (initial.after t readings).count success =
      min (2 ^ 32 - 1) (closing success ((readings.map Reading.success).drop p)) := by
  induction readings using List.reverseRecOn generalizing p with
  | nil =>
    rw [List.map_nil, List.drop_nil]
    cases success <;> rfl
  | append_singleton readings r ih =>
    rw [answers_concat, isLastChange_concat, length_answers, observe_transition] at h
    rw [after_concat, observe_count, List.map_append]
    by_cases ht : (initial.after t readings).Turns t r.outcome.success
    · -- the change has emptied both counters and no outcome comes after it
      rw [if_pos ht, if_pos Option.isSome_some] at h
      subst p
      rw [if_neg (by simp [ht]), List.drop_of_length_le (by simp)]
      rfl
    · rw [if_neg ht, if_neg (by simp)] at h
      have hle := h.le_length
      rw [length_answers] at hle
      rw [List.drop_append_of_le_length (by simpa using hle), List.map_singleton, closing_concat,
        ih h]
      by_cases hb : r.success = success
      · rw [if_pos hb, if_pos ⟨hb.symm, ht⟩]
        omega
      · rw [if_neg hb, if_neg fun hc => hb hc.1.symm]
        rfl

theorem count_lt_after_initial (t : Thresholds) (readings : List Reading) (success : Bool)
    (hs : (initial.after t readings).status ≠ .ofSuccess success) :
    (initial.after t readings).count success < t.needed success := by
  obtain rfl | ⟨before, r, rfl⟩ := List.eq_nil_or_concat' readings
  · have hzero : initial.count success = 0 := by cases success <;> rfl
    rw [after_nil, hzero]
    exact t.needed_pos success
  · rw [after_concat] at hs ⊢
    exact observe_count_lt t r.time r.protocol r.outcome _ hs

theorem exists_count_eq_zero (t : Thresholds) (readings : List Reading) :
    ∃ success, (initial.after t readings).count success = 0 := by
  obtain rfl | ⟨before, r, rfl⟩ := List.eq_nil_or_concat' readings
  · exact ⟨true, rfl⟩
  · rw [after_concat]
    exact ⟨_, observe_count_other t r.time r.protocol r.outcome _⟩

/-- The counters count streaks. After readings from the initial standing each counter is the length
of the streak of its kind with which the outcomes after the last change of status end, as far as
thirty-two bits count; without a change these are all outcomes. So one of the counters is zero, the
failures are fewer than their threshold unless the status is unhealthy, and the successes are fewer
than theirs unless it is healthy. -/
theorem counters_are_closing_streaks {failure recovery : UInt32} {t : Thresholds}
    (ht : Thresholds.make failure recovery = .ok t) (readings : List Reading) :
    let s := initial.after t readings
    let kinds := readings.map Reading.success
    (∃ p, IsLastChange (initial.answers t readings) p) ∧
    (∀ p, IsLastChange (initial.answers t readings) p →
      s.failures.toNat = min (2 ^ 32 - 1) (closing false (kinds.drop p)) ∧
      s.successes.toNat = min (2 ^ 32 - 1) (closing true (kinds.drop p))) ∧
    (s.failures = 0 ∨ s.successes = 0) ∧
    (s.status ≠ .unhealthy → s.failures < failure) ∧
    (s.status ≠ .healthy → s.successes < recovery) := by
  intro s kinds
  refine ⟨exists_isLastChange t initial readings,
    fun p hp => ⟨count_after_initial hp false, count_after_initial hp true⟩, ?_, fun hs => ?_,
    fun hs => ?_⟩
  · obtain ⟨success, hzero⟩ := exists_count_eq_zero t readings
    cases success with
    | false => exact .inl (UInt32.toNat_inj.mp hzero)
    | true => exact .inr (UInt32.toNat_inj.mp hzero)
  · have hlt := count_lt_after_initial t readings false hs
    rw [t.needed_of_make ht] at hlt
    exact UInt32.lt_iff_toNat_lt.mpr hlt
  · have hlt := count_lt_after_initial t readings true hs
    rw [t.needed_of_make ht] at hlt
    exact UInt32.lt_iff_toNat_lt.mpr hlt

/-- Of the four failures after the change only the last two are in a row. -/
theorem counters_are_closing_streaks_after_relapse :
    let failed : Reading := ⟨⟨0⟩, .http, .timedOut ⟨0⟩⟩
    let succeeded : Reading := ⟨⟨0⟩, .http, .succeeded ⟨0⟩ "HTTP 200"⟩
    let readings := [failed, failed, failed, failed, failed, succeeded, failed, failed]
    Thresholds.make 3 2 = .ok ⟨3, 2⟩ ∧ IsLastChange (initial.answers ⟨3, 2⟩ readings) 3 ∧
    (initial.after ⟨3, 2⟩ readings).failures.toNat = 2 ∧
    (initial.after ⟨3, 2⟩ readings).status = .unhealthy ∧
    (initial.after ⟨3, 2⟩ readings).successes < 2 := by
  intro failed succeeded readings
  have hmake : Thresholds.make 3 2 = .ok ⟨3, 2⟩ := rfl
  have hlast : IsLastChange (initial.answers ⟨3, 2⟩ readings) 3 :=
    ⟨fun _ => ⟨⟨.unknown, .unhealthy⟩, by decide⟩, by decide⟩
  have hstatus : (initial.after ⟨3, 2⟩ readings).status = .unhealthy := by decide
  obtain ⟨-, hcounts, -, -, hfewer⟩ := counters_are_closing_streaks hmake readings
  refine ⟨hmake, hlast, (hcounts 3 hlast).1, hstatus, hfewer ?_⟩
  rw [hstatus]
  decide

end Standing

end ServiceHealth
