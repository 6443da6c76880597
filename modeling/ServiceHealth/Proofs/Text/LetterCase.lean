import ServiceHealth.Text.Basic
import ServiceHealth.Text.Fold

/-!
# ASCII letters fold alike

How a character folds depends on what stands around it only for the capital sigma, and there only
on whether its neighbours are cased or case-ignorable. Both cases of an ASCII letter are cased and
neither is ignorable. So a text folds as it does with its ASCII letters in lower case, whatever
other letters stand among them.
-/
namespace ServiceHealth.Text

/-- Beyond ASCII nothing is lower-cased by the ASCII rule. -/
theorem toLower_of_not_ascii {c : Char} (h : 0x80 ≤ c.toNat) : c.toLower = c := by
  have hcapital : ¬(c.val ≥ 'A'.val ∧ c.val ≤ 'Z'.val) := by
    rintro ⟨-, hle⟩
    have hbound : c.toNat ≤ 'Z'.toNat := UInt32.le_iff_toNat_le.mp hle
    have hlast : 'Z'.toNat = 0x5A := rfl
    omega
  exact dif_neg hcapital

/-- A property that all ASCII characters have is left to the others, which stay as they are. -/
theorem toLower_induction {P : Char → Char → Prop} (hascii : ∀ n < 0x80, P (Char.ofNat n).toLower
    (Char.ofNat n)) (hother : ∀ c : Char, 0x80 ≤ c.toNat → P c c) (c : Char) : P c.toLower c := by
  by_cases h : c.toNat < 0x80
  · have hc := hascii c.toNat h
    rwa [Char.ofNat_toNat] at hc
  · rw [toLower_of_not_ascii (by omega)]
    exact hother c (by omega)

/-- Of ranges in ascending order those beyond ASCII do not matter to an ASCII character. -/
theorem inRanges_of_ascii {ranges : List (Nat × Nat)} {k : Nat}
    (h : ∀ r ∈ ranges.drop k, 0x80 ≤ r.1) {n : Nat} (hn : n < 0x80) :
    inRanges ranges n = inRanges (ranges.take k) n := by
  have hnone : (ranges.drop k).any (fun r => r.1 ≤ n && n ≤ r.2) = false := by
    rw [List.any_eq_false]
    intro r hr hin
    have hfirst := h r hr
    simp only [Bool.and_eq_true, decide_eq_true_iff] at hin
    omega
  rw [inRanges, inRanges, ← List.take_append_drop k ranges, List.any_append, hnone, Bool.or_false,
    List.take_append_drop]

/-- A property that ranges give to both cases of every ASCII letter, or to neither. -/
theorem inRanges_toLower {ranges : List (Nat × Nat)} (k : Nat)
    (h : ∀ r ∈ ranges.drop k, 0x80 ≤ r.1)
    (hascii : ∀ n < 0x80, inRanges (ranges.take k) (Char.ofNat n).toLower.toNat =
      inRanges (ranges.take k) (Char.ofNat n).toNat) (c : Char) :
    inRanges ranges c.toLower.toNat = inRanges ranges c.toNat := by
  refine toLower_induction (P := fun d c => inRanges ranges d.toNat = inRanges ranges c.toNat)
    (fun n hn => ?_) (fun _ _ => rfl) c
  have hbounds : ∀ n < 0x80, (Char.ofNat n).toLower.toNat < 0x80 ∧ (Char.ofNat n).toNat < 0x80 := by
    decide
  rw [inRanges_of_ascii h (hbounds n hn).1, inRanges_of_ascii h (hbounds n hn).2, hascii n hn]

theorem isCased_toLower (c : Char) : isCased c.toLower = isCased c :=
  inRanges_toLower 2 (by decide +kernel) (by decide) c

theorem isCaseIgnorable_toLower (c : Char) : isCaseIgnorable c.toLower = isCaseIgnorable c :=
  inRanges_toLower 5 (by decide +kernel) (by decide) c

theorem lowerChar_toLower (c : Char) : lowerChar c.toLower = lowerChar c :=
  toLower_induction (P := fun d c => lowerChar d = lowerChar c) (by decide) (fun _ _ => rfl) c

theorem toLower_eq_sigma_iff (c : Char) : c.toLower = 'Σ' ↔ c = 'Σ' :=
  toLower_induction (P := fun d c => d = 'Σ' ↔ c = 'Σ') (by decide) (fun _ _ => Iff.rfl) c

/-- Whether a cased letter comes next does not depend on its case. -/
theorem nextIsCased_map_toLower (cs : List Char) :
    nextIsCased (cs.map Char.toLower) = nextIsCased cs := by
  have hignored : isCaseIgnorable ∘ Char.toLower = isCaseIgnorable :=
    funext isCaseIgnorable_toLower
  rw [nextIsCased, nextIsCased, List.dropWhile_map, hignored, List.head?_map, Option.map_map]
  congr 2
  exact funext isCased_toLower

theorem lowerSigma_map_toLower (before after : List Char) :
    lowerSigma (before.map Char.toLower) (after.map Char.toLower) = lowerSigma before after := by
  rw [lowerSigma, lowerSigma, nextIsCased_map_toLower, nextIsCased_map_toLower]

/-- The case of ASCII letters matters neither where it stands nor to what comes before or after. -/
theorem foldAfter_map_toLower (before cs : List Char) :
    foldAfter (before.map Char.toLower) (cs.map Char.toLower) = foldAfter before cs := by
  induction cs generalizing before with
  | nil => rfl
  | cons c rest ih =>
    have hrest := ih (c :: before)
    rw [List.map_cons] at hrest
    rw [List.map_cons, foldAfter, foldAfter, hrest, lowerSigma_map_toLower, lowerChar_toLower]
    simp only [toLower_eq_sigma_iff]

theorem fold_lowerAscii (s : String) : fold (lowerAscii s) = fold s := by
  have hfold := foldAfter_map_toLower [] s.toList
  rw [List.map_nil] at hfold
  rw [fold, lowerAscii, String.toList_ofList, hfold, fold]

/-- Texts that differ only in the case of ASCII letters fold to the same text. -/
theorem fold_eq_of_lowerAscii_eq {a b : String} (h : lowerAscii a = lowerAscii b) :
    fold a = fold b := by
  rw [← fold_lowerAscii a, h, fold_lowerAscii]

end ServiceHealth.Text
