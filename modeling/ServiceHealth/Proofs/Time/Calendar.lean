import Mathlib.Order.Basic
import ServiceHealth.Time.Calendar

/-!
# Dates and days

Every day has a date, and the days up to that date are the ones that were counted. So dates and
days stand for each other, in both directions.
-/
namespace ServiceHealth.Time

theorem isLeap_add_400 (year : Nat) : isLeap (year + 400) = isLeap year := by
  have hfour : (year + 400) % 4 = year % 4 := by omega
  have hcentury : (year + 400) % 100 = year % 100 := by omega
  have hcycle : (year + 400) % 400 = year % 400 := by omega
  rw [isLeap, isLeap, hfour, hcentury, hcycle]

/-- The calendar repeats itself after four hundred years. -/
theorem daysOfYears_add_400 (count : Nat) :
    daysOfYears (count + 400) = daysOfYears count + 146097 := by
  induction count with
  | zero => decide +kernel
  | succ count ih =>
    have hyear : daysInYear (1970 + (count + 400)) = daysInYear (1970 + count) := by
      rw [← Nat.add_assoc, daysInYear, daysInYear, isLeap_add_400]
    have hnext : daysOfYears (count + 1 + 400) =
        daysOfYears (count + 400) + daysInYear (1970 + (count + 400)) := by
      rw [Nat.add_right_comm]
      rfl
    rw [hnext, hyear, ih, daysOfYears]
    omega

theorem daysOfYears_add_cycles (count cycles : Nat) :
    daysOfYears (count + 400 * cycles) = daysOfYears count + 146097 * cycles := by
  induction cycles with
  | zero => rfl
  | succ cycles ih =>
    rw [Nat.mul_succ, ← Nat.add_assoc, daysOfYears_add_400, ih]
    omega

/-- The days before the year 10000. -/
theorem daysOfYears_8030 : daysOfYears 8030 = 2932897 := by
  have hthirty : daysOfYears 30 = 10957 := by decide
  have hcycles : daysOfYears (30 + 400 * 20) = daysOfYears 30 + 146097 * 20 :=
    daysOfYears_add_cycles 30 20
  rw [hthirty] at hcycles
  exact hcycles

theorem daysOfYears_mono {a b : Nat} (h : a ≤ b) : daysOfYears a ≤ daysOfYears b := by
  induction h with
  | refl => exact Nat.le_refl _
  | step _ ih => exact Nat.le_trans ih (Nat.le_add_right _ _)

theorem daysInYear_pos (year : Nat) : 0 < daysInYear year := by
  unfold daysInYear
  split <;> omega

/-- Taking whole years off a count leaves a day of the year that is reached. -/
theorem splitYears_spec (count days : Nat) :
    ∃ reached day, splitYears (1970 + count) days = (1970 + reached, day) ∧
      day < daysInYear (1970 + reached) ∧
      daysOfYears reached + day = daysOfYears count + days := by
  induction days using Nat.strongRecOn generalizing count with
  | ind days ih =>
    rw [splitYears]
    by_cases hlt : days < daysInYear (1970 + count)
    · rw [if_pos hlt]
      exact ⟨count, days, rfl, hlt, rfl⟩
    · have hpos := daysInYear_pos (1970 + count)
      obtain ⟨reached, day, hsplit, hday, hsum⟩ :=
        ih (days - daysInYear (1970 + count)) (by omega) (count + 1)
      rw [if_neg hlt]
      refine ⟨reached, day, hsplit, hday, ?_⟩
      rw [hsum, daysOfYears]
      omega

def daysOfMonths (lengths : List Nat) : Nat := lengths.foldr (· + ·) 0

theorem daysOfMonths_cons (length : Nat) (rest : List Nat) :
    daysOfMonths (length :: rest) = length + daysOfMonths rest := rfl

theorem foldl_eq_daysOfMonths (lengths : List Nat) (days : Nat) :
    lengths.foldl (· + ·) days = days + daysOfMonths lengths := by
  induction lengths generalizing days with
  | nil => rfl
  | cons length rest ih =>
    rw [List.foldl_cons, ih, daysOfMonths_cons]
    omega

/-- Taking whole months off a count leaves a day of the month that is reached. -/
theorem splitMonths_spec {lengths : List Nat} {days : Nat} (h : days < daysOfMonths lengths) :
    ∃ month day length, splitMonths lengths days = (month, day) ∧ lengths[month]? = some length ∧
      day < length ∧ daysOfMonths (lengths.take month) + day = days := by
  induction lengths generalizing days with
  | nil => simp [daysOfMonths] at h
  | cons length rest ih =>
    rw [splitMonths]
    by_cases hlt : days < length
    · rw [if_pos hlt]
      exact ⟨0, days, length, rfl, rfl, hlt, Nat.zero_add days⟩
    · rw [daysOfMonths_cons] at h
      obtain ⟨month, day, found, hsplit, hfound, hday, hsum⟩ :=
        ih (by omega : days - length < daysOfMonths rest)
      rw [if_neg hlt, hsplit]
      refine ⟨month + 1, day, found, rfl, hfound, hday, ?_⟩
      rw [List.take_succ_cons, daysOfMonths_cons]
      omega

theorem daysOfMonths_monthLengths (year : Nat) :
    daysOfMonths (monthLengths year) = daysInYear year := by
  unfold monthLengths daysInYear
  split <;> rfl

/-- The date of a day is one of the calendar, and it is the date of that day. -/
theorem ofDays_spec (days : Nat) :
    (Date.ofDays days).isValid ∧ (Date.ofDays days).toDays = days := by
  obtain ⟨reached, day, hyears, hday, hsum⟩ := splitYears_spec 0 days
  rw [← daysOfMonths_monthLengths] at hday
  obtain ⟨month, dayOfMonth, length, hmonths, hlength, hlt, hrest⟩ := splitMonths_spec hday
  have hdate : Date.ofDays days = ⟨1970 + reached, month + 1, dayOfMonth + 1⟩ := by
    rw [Date.ofDays, show splitYears 1970 days = _ from hyears]
    simp only [hmonths]
  rw [hdate]
  constructor
  · simp only [Date.isValid, Nat.add_sub_cancel, hlength]
    simp
    omega
  · simp only [Date.toDays, Nat.add_sub_cancel, Nat.add_sub_cancel_left, foldl_eq_daysOfMonths]
    rw [daysOfYears] at hsum
    omega

/-- A month does not reach beyond all of them. -/
theorem daysOfMonths_take_add_le {lengths : List Nat} {month length : Nat}
    (h : lengths[month]? = some length) :
    daysOfMonths (lengths.take month) + length ≤ daysOfMonths lengths := by
  induction lengths generalizing month with
  | nil => simp at h
  | cons first rest ih =>
    cases month with
    | zero =>
      obtain rfl : first = length := by simpa using h
      simp [daysOfMonths]
    | succ month =>
      have hrest := ih (by simpa using h : rest[month]? = some length)
      rw [List.take_succ_cons, daysOfMonths_cons, daysOfMonths_cons]
      omega

theorem length_monthLengths (year : Nat) : (monthLengths year).length = 12 := rfl

theorem le_of_mem_monthLengths {year length : Nat} (h : length ∈ monthLengths year) :
    length ≤ 31 := by
  unfold monthLengths at h
  split at h <;> simp at h <;> omega

/-- Month and day of a date have two digits. -/
theorem month_day_le {d : Date} (h : d.isValid) : d.month ≤ 12 ∧ d.day ≤ 31 := by
  simp only [Date.isValid, Bool.and_eq_true, decide_eq_true_eq] at h
  obtain ⟨⟨⟨-, hmonth⟩, -⟩, hlength⟩ := h
  cases hfound : (monthLengths d.year)[d.month - 1]? with
  | none => simp [hfound] at hlength
  | some length =>
    have hle : d.day ≤ length := by simpa [hfound] using hlength
    obtain ⟨hlt, hget⟩ := List.getElem?_eq_some_iff.mp hfound
    have hlong := le_of_mem_monthLengths (hget ▸ List.getElem_mem hlt)
    rw [length_monthLengths] at hlt
    omega

/-- The days up to a date are those of the whole years before it and some of its own year. -/
theorem toDays_spec {d : Date} (h : d.isValid) :
    ∃ count, d.year = 1970 + count ∧ daysOfYears count ≤ d.toDays ∧
      d.toDays < daysOfYears (count + 1) := by
  simp only [Date.isValid, Bool.and_eq_true, decide_eq_true_eq] at h
  obtain ⟨⟨⟨hyear, hmonth⟩, hday⟩, hlength⟩ := h
  cases hfound : (monthLengths d.year)[d.month - 1]? with
  | none => simp [hfound] at hlength
  | some length =>
    have hle : d.day ≤ length := by simpa [hfound] using hlength
    have hsum := daysOfMonths_take_add_le hfound
    obtain ⟨count, hcount⟩ : ∃ count, d.year = 1970 + count := ⟨d.year - 1970, by omega⟩
    have hdays : d.toDays =
        daysOfYears count + daysOfMonths ((monthLengths d.year).take (d.month - 1)) +
          (d.day - 1) := by
      rw [Date.toDays, foldl_eq_daysOfMonths, hcount, Nat.add_sub_cancel_left, Nat.zero_add]
    rw [daysOfMonths_monthLengths] at hsum
    refine ⟨count, hcount, ?_, ?_⟩
    · rw [hdays]
      omega
    · rw [daysOfYears, hdays, ← hcount]
      omega

/-- A date before the year 10000 lies before the days that all of them have. -/
theorem toDays_lt {d : Date} (h : d.isValid) (hyear : d.year < 10000) : d.toDays < 2932897 := by
  obtain ⟨count, hcount, -, hlt⟩ := toDays_spec h
  have hmono : daysOfYears (count + 1) ≤ daysOfYears 8030 := daysOfYears_mono (by omega)
  rw [daysOfYears_8030] at hmono
  exact Nat.lt_of_lt_of_le hlt hmono

/-- The date of a day before the year 10000 says so. -/
theorem year_ofDays_lt {days : Nat} (h : days < 2932897) : (Date.ofDays days).year < 10000 := by
  obtain ⟨hvalid, hdays⟩ := ofDays_spec days
  obtain ⟨count, hcount, hle, -⟩ := toDays_spec hvalid
  rw [hdays] at hle
  by_contra hlate
  have hmono : daysOfYears 8030 ≤ daysOfYears count := daysOfYears_mono (by omega)
  rw [daysOfYears_8030] at hmono
  exact absurd h (Nat.not_lt.mpr (Nat.le_trans hmono hle))

end ServiceHealth.Time
