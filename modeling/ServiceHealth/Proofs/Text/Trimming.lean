import Mathlib.Data.List.DropRight
import ServiceHealth.Text.Basic

/-!
# Trimmed texts and written numbers

Trimming leaves a text without blanks at its ends, and leaves a text as it is that has none. A
number is read from decimal digits, with leading zeros or a plus sign, as far as a limit allows; the
digits that a number is written with are read back.
-/
namespace ServiceHealth.Text

/-- No blank stands at either end. -/
structure Trimmed (cs : List Char) : Prop where
  first : ∀ c ∈ cs.head?, isBlank c = false
  last : ∀ c ∈ cs.getLast?, isBlank c = false

variable {cs : List Char}

theorem trimmed_iff : Trimmed cs ↔
    (cs.head?.all (!isBlank ·)) = true ∧ (cs.getLast?.all (!isBlank ·)) = true := by
  simp only [Option.all_eq_true, Bool.not_eq_true']
  exact ⟨fun h => ⟨h.first, h.last⟩, fun h => ⟨h.1, h.2⟩⟩

instance : Decidable (Trimmed cs) := decidable_of_iff' _ trimmed_iff

theorem trimmed_trimChars (cs : List Char) : Trimmed (trimChars cs) where
  first c hc := by
    obtain ⟨dropped, hdropped⟩ := List.rdropWhile_prefix isBlank (cs.dropWhile isBlank)
    have htrim : trimChars cs ++ dropped = cs.dropWhile isBlank := hdropped
    have hhead := List.head?_dropWhile_not isBlank cs
    rw [← htrim, List.head?_append, Option.mem_def.mp hc, Option.some_or] at hhead
    exact hhead
  last c hc := by
    obtain ⟨hne, hlast⟩ := List.mem_getLast?_eq_getLast hc
    have hnot := List.rdropWhile_last_not isBlank (cs.dropWhile isBlank) hne
    rw [Bool.not_eq_true] at hnot
    exact hlast ▸ hnot

theorem Trimmed.dropWhile_eq (h : Trimmed cs) : cs.dropWhile isBlank = cs := by
  cases cs with
  | nil => rfl
  | cons c cs =>
    have hc := h.first c rfl
    exact List.dropWhile_cons_of_neg (by simp [hc])

theorem Trimmed.rdropWhile_eq (h : Trimmed cs) : cs.rdropWhile isBlank = cs := by
  refine List.rdropWhile_eq_self_iff.mpr fun hne => ?_
  have hc := h.last (cs.getLast hne) (List.getLast?_eq_some_getLast hne)
  simp [hc]

theorem Trimmed.trimChars_eq (h : Trimmed cs) : trimChars cs = cs := by
  show (cs.dropWhile isBlank).rdropWhile isBlank = cs
  rw [h.dropWhile_eq, h.rdropWhile_eq]

/-- Nothing is left of a text exactly if it has only blanks. -/
theorem trimChars_eq_nil_iff : trimChars cs = [] ↔ ∀ c ∈ cs, isBlank c := by
  show (cs.dropWhile isBlank).rdropWhile isBlank = [] ↔ _
  rw [List.rdropWhile_eq_nil_iff]
  constructor
  · intro h
    have hnil : cs.dropWhile isBlank = [] := by
      by_contra hne
      have hfirst := h _ (List.head_mem hne)
      rw [List.head_dropWhile_not isBlank hne] at hfirst
      contradiction
    exact List.dropWhile_eq_nil_iff.mp hnil
  · intro h c hc
    exact h c ((List.dropWhile_suffix isBlank).subset hc)

/-- The second text is the first one with blanks around it. -/
def Padded (s cs : List Char) : Prop :=
  ∃ before after, (∀ c ∈ before, isBlank c) ∧ (∀ c ∈ after, isBlank c) ∧
    cs = before ++ (s ++ after)

/-- Trimming takes away blanks at the ends, and nothing else. -/
theorem padded_trimChars (cs : List Char) : Padded (trimChars cs) cs := by
  refine ⟨cs.takeWhile isBlank, (cs.dropWhile isBlank).rtakeWhile isBlank,
    fun c hc => List.mem_takeWhile_imp hc, fun c hc => List.mem_rtakeWhile_imp hc, ?_⟩
  show cs = _ ++ ((cs.dropWhile isBlank).rdropWhile isBlank ++ _)
  rw [List.rdropWhile_append_rtakeWhile, List.takeWhile_append_dropWhile]

/-- Of a text with blanks around it, what is left is the text, if it is trimmed. -/
theorem Trimmed.trimChars_of_padded {s : List Char} (hs : Trimmed s) (h : Padded s cs) :
    trimChars cs = s := by
  obtain ⟨before, after, hbefore, hafter, rfl⟩ := h
  show ((before ++ (s ++ after)).dropWhile isBlank).rdropWhile isBlank = s
  rw [List.dropWhile_append_of_pos hbefore]
  by_cases hne : s = []
  · subst hne
    rw [List.nil_append, List.dropWhile_eq_nil_iff.mpr hafter, List.rdropWhile_nil]
  · have hkept : (s ++ after).dropWhile isBlank = s ++ after := by
      rw [List.dropWhile_append, hs.dropWhile_eq]
      simp [hne]
    have hdropped : (s ++ after).rdropWhile isBlank = s.rdropWhile isBlank := by
      rw [List.rdropWhile, List.reverse_append,
        List.dropWhile_append_of_pos fun c hc => hafter c (List.mem_reverse.mp hc),
        ← List.rdropWhile]
    rw [hkept, hdropped, hs.rdropWhile_eq]

theorem trim_eq_self {s : String} (h : Trimmed s.toList) : trim s = s := by
  rw [trim, h.trimChars_eq, String.ofList_toList]

theorem trimmed_of_trim {s : String} (h : trim s = s) : Trimmed s.toList := by
  rw [← h, toList_trim]
  exact trimmed_trimChars s.toList

/-- Something in front of a text that is trimmed and not empty leaves its end. -/
theorem Trimmed.cons {c : Char} (hc : isBlank c = false) (h : Trimmed cs) : Trimmed (c :: cs) where
  first d hd := by
    obtain rfl := Option.some.inj hd
    exact hc
  last d hd := by
    cases cs with
    | nil =>
      obtain rfl := Option.some.inj hd
      exact hc
    | cons e cs =>
      rw [List.getLast?_cons_cons] at hd
      exact h.last d hd

/-- A text writes a number in decimal digits, perhaps with a plus sign or leading zeros. -/
def Writes (s : String) (n : Nat) : Prop :=
  ∃ digits, digits ≠ [] ∧ (∀ c ∈ digits, c.isDigit) ∧
    (s.toList = digits ∨ s.toList = '+' :: digits) ∧ Nat.ofDigitChars 10 digits 0 = n

theorem digitsValue?_eq_some_iff {n : Nat} : digitsValue? cs = some n ↔
    cs ≠ [] ∧ (∀ c ∈ cs, c.isDigit) ∧ Nat.ofDigitChars 10 cs 0 = n := by
  have hvalue : cs.foldl (fun n c => n * 10 + (c.toNat - '0'.toNat)) 0 =
      Nat.ofDigitChars 10 cs 0 := by
    rw [Nat.ofDigitChars_eq_foldl]
    simp only [Nat.mul_comm]
  rw [digitsValue?, hvalue, ← List.all_eq_true]
  by_cases h : cs ≠ [] ∧ cs.all Char.isDigit
  · rw [if_pos h, Option.some.injEq]
    exact ⟨fun hn => ⟨h.1, h.2, hn⟩, fun hn => hn.2.2⟩
  · rw [if_neg h]
    exact iff_of_false (by simp) fun hn => h ⟨hn.1, hn.2.1⟩

/-- A text is read as a number exactly if it writes one that is within the limit. -/
theorem number?_eq_some_iff {limit n : Nat} {s : String} :
    number? limit s = some n ↔ Writes s n ∧ n ≤ limit := by
  have hread : ∀ cs, (do
      let n ← digitsValue? cs
      if n ≤ limit then some n else none) = some n ↔
      (cs ≠ [] ∧ (∀ c ∈ cs, c.isDigit) ∧ Nat.ofDigitChars 10 cs 0 = n) ∧ n ≤ limit := by
    intro cs
    rw [← digitsValue?_eq_some_iff]
    cases digitsValue? cs with
    | none => simp
    | some m =>
      simp only [Option.bind_eq_bind, Option.bind_some, Option.some.injEq]
      split
      · rename_i hm
        rw [Option.some.injEq]
        exact ⟨fun heq => ⟨heq, heq ▸ hm⟩, And.left⟩
      · rename_i hm
        exact iff_of_false (by simp) fun hn => hm (hn.1 ▸ hn.2)
  unfold number? Writes
  split
  · rename_i rest hs
    rw [hread, hs]
    constructor
    · rintro ⟨⟨hne, hdigits, hn⟩, hle⟩
      exact ⟨⟨rest, hne, hdigits, Or.inr rfl, hn⟩, hle⟩
    · rintro ⟨⟨digits, hne, hdigits, htext, hn⟩, hle⟩
      obtain rfl | htext := htext
      · exact absurd (hdigits '+' List.mem_cons_self) (by decide)
      · obtain rfl := (List.cons.inj htext).2
        exact ⟨⟨hne, hdigits, hn⟩, hle⟩
  · rename_i hplus
    rw [hread]
    constructor
    · rintro ⟨⟨hne, hdigits, hn⟩, hle⟩
      exact ⟨⟨s.toList, hne, hdigits, Or.inl rfl, hn⟩, hle⟩
    · rintro ⟨⟨digits, hne, hdigits, htext, hn⟩, hle⟩
      obtain rfl | htext := htext
      · exact ⟨⟨hne, hdigits, hn⟩, hle⟩
      · exact absurd htext (hplus digits)

end ServiceHealth.Text
