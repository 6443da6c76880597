import Mathlib.Data.List.DropRight
import Mathlib.Data.List.Infix

/-!
# Streaks of outcomes

Outcomes are successes or failures, so that a list of them is a list of truth values. A streak is
full when as many outcomes in a row agree as its kind needs. Where full streaks occur, the one
that ends last is found at the end of the list or where it was before the last outcome.
-/
namespace ServiceHealth

/-- The `n` outcomes that end at position `p` are all of one kind. -/
def EndsStreak (success : Bool) (n : Nat) (kinds : List Bool) (p : Nat) : Prop :=
  p < kinds.length ∧ List.replicate n success <:+ kinds.take (p + 1)

/-- A full streak of one kind ends at position `p`, and no full streak of any kind ends later. -/
def IsLastStreak (need : Bool → Nat) (kinds : List Bool) (success : Bool) (p : Nat) : Prop :=
  EndsStreak success (need success) kinds p ∧
    ∀ q < kinds.length, p < q → ∀ other, ¬ EndsStreak other (need other) kinds q

instance (success : Bool) (n : Nat) (kinds : List Bool) (p : Nat) :
    Decidable (EndsStreak success n kinds p) :=
  inferInstanceAs (Decidable (_ ∧ _))

instance (need : Bool → Nat) (kinds : List Bool) (success : Bool) (p : Nat) :
    Decidable (IsLastStreak need kinds success p) :=
  inferInstanceAs (Decidable (_ ∧ _))

/-- The length of the streak of one kind with which a list ends. -/
def closing (success : Bool) (kinds : List Bool) : Nat :=
  (kinds.rtakeWhile (· == success)).length

@[simp] theorem closing_nil (success : Bool) : closing success [] = 0 := rfl

@[simp] theorem closing_concat (success : Bool) (kinds : List Bool) (b : Bool) :
    closing success (kinds ++ [b]) = if b = success then closing success kinds + 1 else 0 := by
  simp only [closing, List.rtakeWhile_concat, beq_iff_eq]
  split <;> simp

theorem replicate_suffix_iff {success : Bool} {n : Nat} {kinds : List Bool} :
    List.replicate n success <:+ kinds ↔ n ≤ closing success kinds := by
  induction kinds using List.reverseRecOn generalizing n with
  | nil => simp
  | append_singleton kinds b ih =>
    cases n with
    | zero => simp
    | succ n =>
      rw [List.replicate_succ', List.suffix_concat_iff, closing_concat]
      by_cases hb : b = success
      · subst b
        rw [if_pos rfl, Nat.add_le_add_iff_right, ← ih]
        constructor
        · rintro (h | ⟨front, hfront, hs⟩)
          · simp at h
          · exact List.append_cancel_right hfront ▸ hs
        · exact fun hs => .inr ⟨_, rfl, hs⟩
      · rw [if_neg hb]
        constructor
        · rintro (h | ⟨front, hfront, -⟩)
          · simp at h
          · exact absurd (by simpa using congrArg List.getLast? hfront) (Ne.symm hb)
        · intro h
          omega

theorem endsStreak_concat_of_lt {success : Bool} {n : Nat} {kinds : List Bool} {p : Nat}
    (b : Bool) (hp : p < kinds.length) :
    EndsStreak success n (kinds ++ [b]) p ↔ EndsStreak success n kinds p := by
  have ht : (kinds ++ [b]).take (p + 1) = kinds.take (p + 1) :=
    List.take_append_of_le_length hp
  simp only [EndsStreak, ht, hp, List.length_append, true_and, and_iff_right_iff_imp]
  intro _
  omega

theorem endsStreak_concat_length {success : Bool} {n : Nat} {kinds : List Bool} {b : Bool} :
    EndsStreak success n (kinds ++ [b]) kinds.length ↔ n ≤ closing success (kinds ++ [b]) := by
  rw [EndsStreak, List.take_of_length_le (by simp), replicate_suffix_iff]
  simp

/-- A streak that ends with the last outcome is of its kind, since streaks are not empty. -/
theorem endsStreak_concat_length_iff {need : Bool → Nat} (hneed : ∀ success, 0 < need success)
    {kinds : List Bool} {b success : Bool} :
    EndsStreak success (need success) (kinds ++ [b]) kinds.length ↔
      success = b ∧ need b ≤ closing b (kinds ++ [b]) := by
  rw [endsStreak_concat_length]
  by_cases hb : success = b
  · subst success
    simp
  · have := hneed success
    rw [closing_concat, if_neg (Ne.symm hb)]
    simp only [hb, false_and, iff_false]
    omega

/-- Appending an outcome either completes a full streak, which is then the last one, or leaves the
last full streak where it was. -/
theorem isLastStreak_concat {need : Bool → Nat} (hneed : ∀ success, 0 < need success)
    {kinds : List Bool} {b success : Bool} {p : Nat} :
    IsLastStreak need (kinds ++ [b]) success p ↔
      if need b ≤ closing b (kinds ++ [b]) then success = b ∧ p = kinds.length
      else IsLastStreak need kinds success p := by
  have hlen : (kinds ++ [b]).length = kinds.length + 1 := by simp
  constructor
  · rintro ⟨hends, hnone⟩
    have hp : p < kinds.length + 1 := hlen ▸ hends.1
    by_cases hpl : p = kinds.length
    · subst p
      obtain ⟨rfl, hfull⟩ := (endsStreak_concat_length_iff hneed).mp hends
      rw [if_pos hfull]
      exact ⟨rfl, rfl⟩
    · have hp' : p < kinds.length := by omega
      have hshort : ¬ need b ≤ closing b (kinds ++ [b]) := fun hfull =>
        hnone kinds.length (by omega) hp' b ((endsStreak_concat_length_iff hneed).mpr ⟨rfl, hfull⟩)
      rw [if_neg hshort]
      refine ⟨(endsStreak_concat_of_lt b hp').mp hends, fun q hq hpq other h => ?_⟩
      exact hnone q (by omega) hpq other ((endsStreak_concat_of_lt b hq).mpr h)
  · split
    · rename_i hfull
      rintro ⟨rfl, rfl⟩
      exact ⟨(endsStreak_concat_length_iff hneed).mpr ⟨rfl, hfull⟩, fun q hq hpq => by omega⟩
    · rename_i hshort
      rintro ⟨hends, hnone⟩
      refine ⟨(endsStreak_concat_of_lt b hends.1).mpr hends, fun q hq hpq other h => ?_⟩
      by_cases hql : q = kinds.length
      · subst q
        exact hshort ((endsStreak_concat_length_iff hneed).mp h).2
      · have hq' : q < kinds.length := by omega
        exact hnone q hq' hpq other ((endsStreak_concat_of_lt b hq').mp h)

/-- Where a full streak ends there is a last one. -/
theorem exists_isLastStreak {need : Bool → Nat} (hneed : ∀ success, 0 < need success)
    {kinds : List Bool} {success : Bool} {p : Nat}
    (h : EndsStreak success (need success) kinds p) :
    ∃ other q, IsLastStreak need kinds other q := by
  induction kinds using List.reverseRecOn with
  | nil => exact absurd h.1 (Nat.not_lt_zero p)
  | append_singleton kinds b ih =>
    simp only [isLastStreak_concat hneed]
    by_cases hfull : need b ≤ closing b (kinds ++ [b])
    · exact ⟨b, kinds.length, by rw [if_pos hfull]; exact ⟨rfl, rfl⟩⟩
    · simp only [if_neg hfull]
      apply ih
      have hp : p < kinds.length + 1 := by simpa using h.1
      have hpl : p ≠ kinds.length := by
        rintro rfl
        exact hfull ((endsStreak_concat_length_iff hneed).mp h).2
      exact (endsStreak_concat_of_lt b (by omega)).mp h

theorem EndsStreak.mem {success : Bool} {n : Nat} {kinds : List Bool} {p : Nat}
    (h : EndsStreak success n kinds p) (hn : 0 < n) : success ∈ kinds :=
  List.mem_of_mem_take (h.2.subset (by simp [hn.ne']))

/-- Every outcome of a streak is of its kind. -/
theorem EndsStreak.getElem? {success : Bool} {n : Nat} {kinds : List Bool} {p : Nat}
    (h : EndsStreak success n kinds p) {i : Nat} (hi : i ≤ p) (hn : p < i + n) :
    kinds[i]? = some success := by
  obtain ⟨front, hfront⟩ := h.2
  have hlength : front.length + n = p + 1 := by
    have := congrArg List.length hfront
    have := h.1
    simp only [List.length_append, List.length_replicate, List.length_take] at *
    omega
  have htake : (kinds.take (p + 1))[i]? = kinds[i]? := List.getElem?_take_of_lt (by omega)
  rw [← htake, ← hfront, List.getElem?_append_right (by omega), List.getElem?_replicate]
  exact if_pos (by omega)

/-- At least `n` outcomes in a row, all of one kind. -/
def IsRun (success : Bool) (n : Nat) (run : List Bool) : Prop :=
  n ≤ run.length ∧ ∀ b ∈ run, b = success

theorem isRun_replicate (success : Bool) (n : Nat) : IsRun success n (List.replicate n success) :=
  ⟨by simp, fun _ hb => List.eq_of_mem_replicate hb⟩

theorem IsRun.replicate_suffix {success : Bool} {n : Nat} {run : List Bool}
    (h : IsRun success n run) : List.replicate n success <:+ run := by
  refine ⟨List.replicate (run.length - n) success, ?_⟩
  rw [← List.replicate_add, Nat.sub_add_cancel h.1]
  exact (List.eq_replicate_of_mem h.2).symm

/-- Enough successes stand in a row, and after them never enough failures. -/
def Earned (need : Bool → Nat) (kinds : List Bool) : Prop :=
  ∃ before streak later, kinds = before ++ streak ++ later ∧ IsRun true (need true) streak ∧
    ∀ run, run <:+: later → ¬ IsRun false (need false) run

/-- The streak that earns trust is followed by no full streak of failures, so the last full streak
is one of successes. -/
theorem Earned.lastStreak {need : Bool → Nat} (hneed : ∀ success, 0 < need success)
    {kinds : List Bool} (h : Earned need kinds) : ∃ p, IsLastStreak need kinds true p := by
  obtain ⟨before, streak, later, rfl, hstreak, hnone⟩ := h
  have hpos := hneed true
  have hlength := hstreak.1
  set p := before.length + streak.length - 1 with hp
  have hfront : (before ++ streak).length = p + 1 := by
    rw [List.length_append]
    omega
  have hends : EndsStreak true (need true) (before ++ streak ++ later) p := by
    refine ⟨by rw [List.length_append]; omega, ?_⟩
    rw [List.take_left' hfront]
    exact hstreak.replicate_suffix.trans (List.suffix_append before streak)
  obtain ⟨success, q, hq⟩ := exists_isLastStreak hneed hends
  cases success with
  | true => exact ⟨q, hq⟩
  | false =>
    have hpq : p ≤ q := by
      by_contra h
      exact hq.2 p hends.1 (by omega) true hends
    -- the outcome at `p` is a success, so the failures that end at `q` all come after it
    have hapart : p + need false ≤ q := by
      by_contra h
      have hfalse := hq.1.getElem? hpq (by omega)
      rw [hends.getElem? le_rfl (by omega)] at hfalse
      contradiction
    have htake : (before ++ streak ++ later).take (q + 1) =
        before ++ streak ++ later.take (q - p) := by
      rw [List.take_append, List.take_of_length_le (by omega), hfront]
      congr 2
      omega
    have hq' := hq.1.1
    have hsuffix : List.replicate (need false) false <:+ later.take (q - p) := by
      refine List.suffix_of_suffix_length_le (htake ▸ hq.1.2) (List.suffix_append _ _) ?_
      rw [List.length_append] at hq'
      rw [List.length_replicate, List.length_take]
      omega
    exact absurd (isRun_replicate false (need false))
      (hnone _ (hsuffix.isInfix.trans (List.take_prefix _ _).isInfix))

/-- Failures in a row after the last full streak would make another one. -/
theorem IsLastStreak.earned {need : Bool → Nat} (hneed : ∀ success, 0 < need success)
    {kinds : List Bool} {p : Nat} (h : IsLastStreak need kinds true p) : Earned need kinds := by
  obtain ⟨hends, hnone⟩ := h
  obtain ⟨before, hbefore⟩ := hends.2
  refine ⟨before, List.replicate (need true) true, kinds.drop (p + 1), ?_,
    isRun_replicate true _, ?_⟩
  · rw [hbefore, List.take_append_drop]
  rintro run ⟨x, y, hxy⟩ hrun
  have hpos := hneed false
  have hlength := hrun.1
  have htaken : (kinds.take (p + 1)).length = p + 1 := by
    have := hends.1
    rw [List.length_take]
    omega
  have hfront : (kinds.take (p + 1) ++ x ++ run).length = p + x.length + run.length + 1 := by
    simp only [List.length_append, htaken]
    omega
  have hkinds : kinds = kinds.take (p + 1) ++ x ++ run ++ y := by
    rw [List.append_assoc, List.append_assoc, ← List.append_assoc x, hxy, List.take_append_drop]
  have htotal := congrArg List.length hkinds
  rw [List.length_append, hfront] at htotal
  have htake : kinds.take (p + x.length + run.length + 1) = kinds.take (p + 1) ++ x ++ run :=
    calc
      _ = (kinds.take (p + 1) ++ x ++ run ++ y).take (p + x.length + run.length + 1) :=
        congrArg _ hkinds
      _ = _ := List.take_left' hfront
  refine hnone (p + x.length + run.length) (by omega) (by omega) false ⟨by omega, ?_⟩
  rw [htake]
  exact hrun.replicate_suffix.trans (List.suffix_append _ _)

/-- What is said of runs is said of positions: the last full streak is one of successes. -/
theorem earned_iff {need : Bool → Nat} (hneed : ∀ success, 0 < need success)
    {kinds : List Bool} : Earned need kinds ↔ ∃ p, IsLastStreak need kinds true p :=
  ⟨fun h => h.lastStreak hneed, fun ⟨_, hp⟩ => hp.earned hneed⟩

end ServiceHealth
