import Mathlib.Tactic.IntervalCases
import ServiceHealth.Proofs.Time.Calendar
import ServiceHealth.Time.Stamp

/-!
# Timestamps, read back

Up to the end of the year 9999 a timestamp has a written form of fixed places, in which the reader
finds the same date, the same time of day and the same nanoseconds. What the reader accepts lies in
these years.
-/
namespace ServiceHealth.Timestamp

/-- The year has four digits. -/
def Writable (t : Timestamp) : Prop := t.nanos < 253402300800 * second

theorem digit?_digitChar {d : Nat} (h : d < 10) : digit? (Nat.digitChar d) = some d := by
  interval_cases d <;> rfl

theorem digit?_le {c : Char} {d : Nat} (h : digit? c = some d) : d ≤ 9 := by
  unfold digit? at h
  split at h
  · rename_i hrange
    obtain rfl := Option.some.inj h
    have hle : c.toNat ≤ '9'.toNat := hrange.2
    have hnine : '9'.toNat = 57 := rfl
    have hzero : '0'.toNat = 48 := rfl
    omega
  · contradiction

/-- The last digit of a padded number is its last digit. -/
theorem padded_succ {width : Nat} (hwidth : 0 < width) (n : Nat) :
    padded (width + 1) n = padded width (n / 10) ++ [Nat.digitChar (n % 10)] := by
  by_cases hsmall : n < 10
  · obtain ⟨width, rfl⟩ : ∃ w, width = w + 1 := ⟨width - 1, by omega⟩
    have hdiv : n / 10 = 0 := by omega
    have hmod : n % 10 = n := by omega
    rw [hdiv, hmod, padded, padded, Nat.toDigits_of_lt_base hsmall, Nat.toDigits_zero]
    simp [List.replicate_succ']
  · have hdigits : Nat.toDigits 10 n = Nat.toDigits 10 (n / 10) ++ [Nat.digitChar (n % 10)] :=
      Nat.toDigits_of_base_le (by omega) (by omega)
    simp only [padded, hdigits, List.length_append, List.length_singleton, List.append_assoc,
      Nat.add_sub_add_right]

theorem padded_one {n : Nat} (h : n < 10) : padded 1 n = [Nat.digitChar n] := by
  simp [padded, Nat.toDigits_of_lt_base h]

theorem padded_two {n : Nat} (h : n < 100) :
    padded 2 n = [Nat.digitChar (n / 10), Nat.digitChar (n % 10)] := by
  rw [padded_succ (by omega), padded_one (by omega)]
  rfl

theorem padded_four {n : Nat} (h : n < 10000) : padded 4 n =
    [Nat.digitChar (n / 100 / 10), Nat.digitChar (n / 100 % 10), Nat.digitChar (n % 100 / 10),
      Nat.digitChar (n % 100 % 10)] := by
  have hcentury : n / 10 / 10 = n / 100 := by omega
  have hdecade : n / 10 % 10 = n % 100 / 10 := by omega
  have hyear : n % 10 = n % 100 % 10 := by omega
  rw [padded_succ (by omega), padded_succ (by omega), hcentury, padded_two (by omega), hdecade,
    hyear]
  rfl

theorem twoDigits?_digitChar {n : Nat} (h : n < 100) :
    twoDigits? (Nat.digitChar (n / 10)) (Nat.digitChar (n % 10)) = some n := by
  have htens : digit? (Nat.digitChar (n / 10)) = some (n / 10) := digit?_digitChar (by omega)
  have hones : digit? (Nat.digitChar (n % 10)) = some (n % 10) := digit?_digitChar (by omega)
  have hsum : n / 10 * 10 + n % 10 = n := by omega
  simp [twoDigits?, htens, hones, hsum]

theorem twoDigits?_lt {a b : Char} {n : Nat} (h : twoDigits? a b = some n) : n < 100 := by
  obtain ⟨tens, htens, hrest⟩ := Option.bind_eq_some_iff.mp h
  obtain ⟨ones, hones, hsum⟩ := Option.bind_eq_some_iff.mp hrest
  have := digit?_le htens
  have := digit?_le hones
  obtain rfl := Option.some.inj hsum
  omega

/-- The first digit of a padded number that is not too wide. -/
theorem padded_cons {k n : Nat} (hk : 0 < k) (hn : n < Nat.pow 10 (k + 1)) :
    padded (k + 1) n = Nat.digitChar (n / Nat.pow 10 k) :: padded k (n % Nat.pow 10 k) := by
  induction k, hk using Nat.le_induction generalizing n with
  | base =>
    have hten : Nat.pow 10 1 = 10 := rfl
    rw [hten, padded_two hn, padded_one (by omega)]
  | succ k hk ih =>
    have hpow (j : Nat) : Nat.pow 10 (j + 1) = 10 * Nat.pow 10 j := Nat.mul_comm _ _
    rw [hpow] at hn
    have hfirst := ih (by omega : n / 10 < Nat.pow 10 (k + 1))
    rw [Nat.div_div_eq_div_mul] at hfirst
    have hrest := padded_succ hk (n % Nat.pow 10 (k + 1))
    rw [hpow, Nat.mod_mul_right_div_self, Nat.mod_mul_right_mod] at hrest
    rw [padded_succ (by omega), hfirst, hpow, hrest]
    rfl

theorem fraction?_cons {unit d lower : Nat} {rest : List Char} (hd : d < 10)
    (h : fraction? (unit / 10) rest = some lower) :
    fraction? unit (Nat.digitChar d :: rest) = some (unit * d + lower) := by
  have hz : Nat.digitChar d ≠ 'Z' := Nat.digitChar_ne 'Z' (by decide)
  have hplus : Nat.digitChar d ≠ '+' := Nat.digitChar_ne '+' (by decide)
  simp [fraction?, hz, hplus, digit?_digitChar hd, h]

/-- The fraction digits that are written for a number of nanoseconds stand for it. -/
theorem fraction?_padded {k n : Nat} (hn : n < Nat.pow 10 (k + 1)) :
    fraction? (Nat.pow 10 k) (padded (k + 1) n ++ ['Z']) = some n := by
  induction k generalizing n with
  | zero =>
    have hone : Nat.pow 10 0 = 1 := rfl
    have hend : fraction? (1 / 10) ['Z'] = some 0 := rfl
    rw [hone, padded_one hn, List.singleton_append, fraction?_cons hn hend]
    simp
  | succ k ih =>
    have hpos : 0 < Nat.pow 10 (k + 1) := Nat.pow_pos (by omega)
    have hlower := ih (Nat.mod_lt n hpos)
    have hdigit : n / Nat.pow 10 (k + 1) < 10 := Nat.div_lt_of_lt_mul hn
    have hunit : Nat.pow 10 (k + 1) / 10 = Nat.pow 10 k := Nat.mul_div_cancel _ (by omega)
    rw [padded_cons (by omega) hn, List.cons_append, fraction?_cons hdigit (hunit.symm ▸ hlower),
      Nat.div_add_mod]

/-- A fraction is less than the unit before it. -/
theorem fraction?_lt {unit n : Nat} {cs : List Char} (h : fraction? unit cs = some n) :
    n < 10 * unit ∨ n = 0 := by
  induction cs generalizing unit n with
  | nil =>
    obtain rfl := Option.some.inj h
    exact Or.inr rfl
  | cons c cs ih =>
    rw [fraction?] at h
    split at h
    · split at h
      · obtain rfl := Option.some.inj h
        exact Or.inr rfl
      · contradiction
    split at h
    · obtain rfl := Option.some.inj h
      exact Or.inr rfl
    · obtain ⟨d, hd, hrest⟩ := Option.bind_eq_some_iff.mp h
      obtain ⟨lower, hlower, hsum⟩ := Option.bind_eq_some_iff.mp hrest
      obtain rfl : unit * d + lower = n := Option.some.inj hsum
      have hdigit := digit?_le hd
      have hbound : unit * d ≤ unit * 9 := Nat.mul_le_mul_left unit hdigit
      by_cases hunit : unit = 0
      · subst hunit
        obtain hlt | rfl := ih hlower
        · omega
        · simp
      · obtain hlt | rfl := ih hlower
        · omega
        · omega

theorem zone?_lt {cs : List Char} {n : Nat} (h : zone? cs = some n) : n < second := by
  unfold zone? at h
  have hsecond : second = 1000000000 := rfl
  split at h
  · obtain rfl := Option.some.inj h
    decide
  · obtain hlt | rfl := fraction?_lt h
    · omega
    · decide
  · split at h
    · obtain rfl := Option.some.inj h
      decide
    · contradiction
  · split at h
    · obtain rfl := Option.some.inj h
      decide
    · contradiction

theorem zone?_text {fraction : Nat} (h : fraction < second) :
    zone? (if fraction = 0 then ['Z'] else '.' :: padded 9 fraction ++ ['Z']) = some fraction := by
  split
  · subst fraction
    rfl
  · have hnine : fraction < Nat.pow 10 (8 + 1) := h
    exact fraction?_padded hnine

/-- Date, time of day and fraction are found in their places. -/
theorem ofChars?_places {date : Time.Date} {hour minute seconds nanos : Nat} {zone : List Char}
    (hdate : date.isValid) (hyear : date.year < 10000) (hhour : hour ≤ 23) (hminute : minute ≤ 59)
    (hseconds : seconds ≤ 59) (hzone : zone? zone = some nanos) :
    ofChars? (padded 4 date.year ++ '-' :: padded 2 date.month ++ '-' :: padded 2 date.day ++
      'T' :: padded 2 hour ++ ':' :: padded 2 minute ++ ':' :: padded 2 seconds ++ zone) =
        some (ofSeconds (date.toDays * 86400 + hour * 3600 + minute * 60 + seconds) nanos) := by
  obtain ⟨hmonth, hday⟩ := Time.month_day_le hdate
  have hsame : date.year / 100 * 100 + date.year % 100 = date.year := by omega
  rw [padded_four hyear, padded_two (by omega), padded_two (by omega), padded_two (by omega),
    padded_two (by omega), padded_two (by omega)]
  simp only [List.cons_append, List.nil_append, ofChars?]
  rw [twoDigits?_digitChar (by omega), twoDigits?_digitChar (by omega),
    twoDigits?_digitChar (by omega), twoDigits?_digitChar (by omega),
    twoDigits?_digitChar (by omega), twoDigits?_digitChar (by omega),
    twoDigits?_digitChar (by omega)]
  have hsecond : seconds ≤ 60 := by omega
  simp [hsame, hdate, hhour, hminute, hsecond, Nat.min_eq_left hseconds, hzone]

/-- A timestamp before the year 10000 is read back from its written form. -/
theorem ofText?_text {t : Timestamp} (h : t.Writable) : ofText? t.text = some t := by
  have hsecond : second = 1000000000 := rfl
  unfold Writable at h
  rw [hsecond] at h
  obtain ⟨hvalid, hdays⟩ := Time.ofDays_spec (t.nanos / second / 86400)
  have hyear : (Time.Date.ofDays (t.nanos / second / 86400)).year < 10000 :=
    Time.year_ofDays_lt (by rw [hsecond]; omega)
  have hzone := zone?_text (Nat.mod_lt t.nanos (by rw [hsecond]; omega : 0 < second))
  have hplaces := ofChars?_places hvalid hyear
    (by omega : t.nanos / second % 86400 / 3600 ≤ 23)
    (by omega : t.nanos / second % 86400 / 60 % 60 ≤ 59)
    (by omega : t.nanos / second % 86400 % 60 ≤ 59) hzone
  rw [ofText?, text, String.toList_ofList, hplaces, hdays]
  refine congrArg some (congrArg Timestamp.mk ?_)
  rw [hsecond]
  omega

theorem of_guard {p : Prop} [Decidable p] {u : Unit} (h : (guard p : Option Unit) = some u) :
    p := by
  by_contra hp
  simp [guard, hp] at h

/-- What is read as a timestamp lies before the year 10000. -/
theorem writable_of_ofText? {s : String} {t : Timestamp} (h : ofText? s = some t) :
    t.Writable := by
  unfold ofText? ofChars? at h
  split at h
  · obtain ⟨century, hcentury, h⟩ := Option.bind_eq_some_iff.mp h
    obtain ⟨year, hyear, h⟩ := Option.bind_eq_some_iff.mp h
    obtain ⟨month, -, h⟩ := Option.bind_eq_some_iff.mp h
    obtain ⟨day, -, h⟩ := Option.bind_eq_some_iff.mp h
    obtain ⟨hour, -, h⟩ := Option.bind_eq_some_iff.mp h
    obtain ⟨minute, -, h⟩ := Option.bind_eq_some_iff.mp h
    obtain ⟨seconds, -, h⟩ := Option.bind_eq_some_iff.mp h
    obtain ⟨_, hguard, h⟩ := Option.bind_eq_some_iff.mp h
    obtain ⟨nanos, hzone, h⟩ := Option.bind_eq_some_iff.mp h
    obtain ⟨-, hvalid, hhour, hminute, -⟩ := of_guard hguard
    obtain rfl := Option.some.inj h
    have hcentury := twoDigits?_lt hcentury
    have hyear := twoDigits?_lt hyear
    have hdays := Time.toDays_lt hvalid (by simp only; omega)
    have hnanos := zone?_lt hzone
    have hsecond : second = 1000000000 := rfl
    generalize Time.Date.toDays _ = days at *
    simp only [Writable, ofSeconds]
    rw [hsecond] at hnanos ⊢
    have hlast : min seconds 59 ≤ 59 := Nat.min_le_right _ _
    omega
  · contradiction

end ServiceHealth.Timestamp
