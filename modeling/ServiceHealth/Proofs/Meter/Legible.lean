import Mathlib.Tactic.IntervalCases
import ServiceHealth.Meter.Page
import ServiceHealth.Proofs.Json.Scalars
import ServiceHealth.Text.Pieces

/-!
# Texts that are shown as they are

Nothing on the page is escaped. A text is legible if it holds neither what ends a line nor what ends
the value of a label. All numbers are, in every form that the page has for them.
-/
namespace ServiceHealth

namespace Meter

/-- Ends neither a line nor the value of a label. -/
def Plain (c : Char) : Prop := c ≠ '"' ∧ c ≠ '\n'

instance (c : Char) : Decidable (Plain c) := inferInstanceAs (Decidable (_ ∧ _))

def Legible (s : String) : Prop := ∀ c ∈ s.toList, Plain c

instance (s : String) : Decidable (Legible s) :=
  decidable_of_iff (s.toList.all fun c => decide (Plain c)) (by simp [Legible])

theorem plain_digitChar (n : Nat) : Plain (Nat.digitChar n) := by
  by_cases h : n < 16
  · interval_cases n <;> decide
  · have hstar : Nat.digitChar n = '*' := by
      unfold Nat.digitChar
      iterate 16 rw [if_neg (by omega)]
    rw [hstar]
    decide

theorem plain_of_isDigit {c : Char} (h : c.isDigit) : Plain c := by
  constructor
  · rintro rfl
    contradiction
  · rintro rfl
    contradiction

theorem plain_toDigits (n : Nat) : ∀ c ∈ Nat.toDigits 10 n, Plain c :=
  fun _ hc => plain_of_isDigit (Json.isDigit_of_mem_toDigits hc)

theorem legible_append {s t : String} (hs : Legible s) (ht : Legible t) : Legible (s ++ t) := by
  intro c hc
  rw [String.toList_append, List.mem_append] at hc
  exact hc.elim (hs c) (ht c)

theorem legible_ofNat (n : Nat) : Legible (toString n) := by
  intro c hc
  rw [Nat.toString_eq_repr, Nat.repr, String.toList_ofList] at hc
  exact plain_toDigits n c hc

theorem legible_ofInt (n : Int) : Legible (toString n) := by
  cases n with
  | ofNat n => exact legible_ofNat n
  | negSucc n => exact legible_append (by decide) (legible_ofNat (n + 1))

end Meter

namespace Decimal

open Meter (Legible)

theorem plain_replicate {c : Char} (hc : Meter.Plain c) (n : Nat) :
    ∀ d ∈ List.replicate n c, Meter.Plain d :=
  fun _ hd => List.eq_of_mem_replicate hd ▸ hc

def Digits.Plain (d : Digits) : Prop := ∀ c ∈ d.digits, Meter.Plain c

variable {d : Digits}

theorem Digits.Plain.positional (h : d.Plain) : ∀ c ∈ d.positional, Meter.Plain c := by
  have hzeros := plain_replicate (show Meter.Plain '0' by decide)
  unfold Digits.positional
  simp only
  split
  · simp only [List.cons_append, List.forall_mem_cons, List.forall_mem_append]
    exact ⟨by decide, by decide, hzeros _, h⟩
  split
  · simp only [List.forall_mem_append, List.forall_mem_cons]
    exact ⟨fun c hc => h c (List.mem_of_mem_take hc), by decide,
      fun c hc => h c (List.mem_of_mem_drop hc)⟩
  · simp only [List.forall_mem_append, List.forall_mem_cons]
    exact ⟨⟨h, hzeros _⟩, by decide, by decide, by simp⟩

theorem Digits.Plain.scientific (h : d.Plain) : ∀ c ∈ d.scientific, Meter.Plain c := by
  unfold Digits.Plain at h
  unfold Digits.scientific
  cases hdigits : d.digits with
  | nil => simp
  | cons first rest =>
    rw [hdigits, List.forall_mem_cons] at h
    cases rest with
    | nil => simpa using h.1
    | cons second rest =>
      simp only [List.forall_mem_cons] at h ⊢
      exact ⟨h.1, by decide, h.2⟩

theorem plain_drawn (drawn : List Nat × Int) (k : Int) :
    Digits.Plain (match drawn with
      | (digits, exponent) => ⟨digits.reverse.map Nat.digitChar, exponent - k⟩) := by
  intro c hc
  obtain ⟨n, -, rfl⟩ := List.mem_map.mp hc
  exact Meter.plain_digitChar n

theorem plain_scaledDigits (b : Binary) : b.scaledDigits.Plain := by
  -- unfolded as a function: applied to a number, the digits would be drawn to check the step
  have hdef : Binary.scaledDigits = Binary.scaledDigits := rfl
  conv at hdef => rhs; delta Binary.scaledDigits
  rw [hdef]
  exact plain_drawn _ _

theorem legible_signed (x : Float) {cs : List Char} (h : ∀ c ∈ cs, Meter.Plain c) :
    Legible (signed x cs) := by
  unfold Legible signed
  rw [String.toList_ofList]
  split
  · exact List.forall_mem_cons.mpr ⟨by decide, h⟩
  · exact h

/-- A floating-point number is legible, whatever it is. -/
theorem legible_sampleText (x : Float) : Legible (sampleText x) := by
  unfold sampleText
  have hdigits := plain_scaledDigits (Binary.ofFloat x)
  generalize (Binary.ofFloat x).scaledDigits = d at hdigits
  refine legible_signed x ?_
  split
  · decide
  simp only
  split
  · exact hdigits.positional
  · rw [List.forall_mem_append, List.forall_mem_cons]
    exact ⟨hdigits.scientific, by decide, Meter.legible_ofInt _⟩

end Decimal

end ServiceHealth
