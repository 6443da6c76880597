import ServiceHealth.Health.Report
import ServiceHealth.Proofs.Lookup
import ServiceHealth.Proofs.Service.Summary
import ServiceHealth.Proofs.Text.LetterCase
import ServiceHealth.Service.Catalog

/-!
# Looking up by key and by name

Keys of metadata and names of services are compared by their folded forms alone. So two spellings
that fold alike find the same entries, records and reports, and one takes the place of the other;
and spellings that differ in the case of ASCII letters fold alike.
-/
namespace ServiceHealth

theorem Text.sameFold_of_fold_eq {a b : String} (h : fold a = fold b) (name : String) :
    sameFold name a = sameFold name b := by
  rw [sameFold, sameFold, h]

namespace Metadata

variable {a b : String}

/-- What is written under another spelling of a key takes the place of its entry. -/
theorem mem_toList_insert (h : Text.fold a = Text.fold b) {m : Metadata} {v : String}
    (ha : (a, v) ∈ m.toList) (w : String) (p : String × String) :
    p ∈ (m.insert b w).toList ↔ p = (b, w) ∨ p ∈ m.toList ∧ p ≠ (a, v) := by
  have hheld := m.mem_toList.mp ha
  rw [h] at hheld
  rw [mem_toList, mem_toList, stored?_insert]
  by_cases hfold : Text.fold b = Text.fold p.1
  · rw [if_pos hfold, ← hfold, hheld, Option.some.injEq, Option.some.injEq, eq_comm (a := p)]
    constructor
    · exact Or.inl
    · rintro (hnew | ⟨hold, hne⟩)
      · exact hnew
      · exact absurd hold.symm hne
  · rw [if_neg hfold]
    constructor
    · intro hp
      refine Or.inr ⟨hp, ?_⟩
      rintro rfl
      exact hfold h.symm
    · rintro (rfl | ⟨hp, -⟩)
      · exact absurd rfl hfold
      · exact hp

end Metadata

namespace MetadataSummary

/-- A summary has one entry at most for keys that fold alike. -/
theorem countP_keys_le {a b : String} (h : Text.fold a = Text.fold b) (now : Timestamp)
    (name : String) (instances : List Instance) :
    (ofInstances now name instances).keys.countP (fun k => k.key = a ∨ k.key = b) ≤ 1 := by
  have hascending := (keys_ascending now name instances).filter fun k => k.key = a ∨ k.key = b
  have hfold : ∀ k ∈ (ofInstances now name instances).keys.filter (fun k => k.key = a ∨ k.key = b),
      Text.fold k.key = Text.fold b := by
    intro k hk
    obtain rfl | rfl := of_decide_eq_true (List.mem_filter.mp hk).2
    · exact h
    · rfl
  rw [List.countP_eq_length_filter]
  generalize (ofInstances now name instances).keys.filter (fun k => k.key = a ∨ k.key = b) = found
    at hascending hfold
  match found with
  | [] => exact Nat.zero_le 1
  | [_] => exact Nat.le_refl 1
  | k :: l :: found =>
    have hlt := List.rel_of_pairwise_cons hascending List.mem_cons_self
    rw [hfold k (by simp), hfold l (by simp)] at hlt
    exact absurd hlt (String.lt_irrefl _)

end MetadataSummary

/-- Whoever looks up by name or by key may write ASCII letters in either case, in whatever text they
stand. Two such spellings have the same value in metadata; what is written under one takes the place
of what is written under the other, and of nothing else; they name the same instances, records and
reports; and no summary lists both. -/
theorem lookups_ignore_ascii_case {a b : String} (h : Text.lowerAscii a = Text.lowerAscii b) :
    (∀ m : Metadata, m.get? a = m.get? b ∧ m.contains a = m.contains b) ∧
    (∀ (m : Metadata) (v w : String), (a, v) ∈ m.toList → (m.exchange b w).1 = some v ∧
      ∀ p, p ∈ (m.exchange b w).2.toList ↔ p = (b, w) ∨ p ∈ m.toList ∧ p ≠ (a, v)) ∧
    (∀ i : Instance, i.matchesService a = i.matchesService b) ∧
    (∀ c : Catalog, c.ofService a = c.ofService b) ∧
    (∀ reports : Board, reports.ofService a = reports.ofService b) ∧
    ∀ now name instances, (MetadataSummary.ofInstances now name instances).keys.countP
      (fun k => k.key = a ∨ k.key = b) ≤ 1 := by
  have hfold : Text.fold a = Text.fold b := Text.fold_eq_of_lowerAscii_eq h
  have hmatches (i : Instance) : i.matchesService a = i.matchesService b :=
    Text.sameFold_of_fold_eq hfold i.serviceName
  refine ⟨fun m => ?_, fun m v w ha => ?_, hmatches, fun c => ?_, fun reports => ?_, ?_⟩
  · exact ⟨m.get?_of_fold_eq hfold, m.contains_of_fold_eq hfold⟩
  · rw [Metadata.exchange_eq]
    refine ⟨?_, Metadata.mem_toList_insert hfold ha w⟩
    rw [m.get?_eq, ← hfold, m.mem_toList.mp ha, Option.map_some]
  · simp only [Catalog.ofService, hmatches]
  · simp only [Board.ofService_eq, hfold]
  · exact MetadataSummary.countP_keys_le hfold

/-- One capital sigma ends a word and one does not, whatever the case of the letters around them. -/
theorem lookups_ignore_ascii_case_around_sigma :
    let m := (Metadata.empty.insert "other" "0").insert "ABΣ'-xΣy" "1"
    Text.lowerAscii "ABΣ'-xΣy" = Text.lowerAscii "abΣ'-XΣY" ∧
      ("ABΣ'-xΣy", "1") ∈ m.toList ∧ (m.exchange "abΣ'-XΣY" "3").1 = some "1" ∧
      ("ABΣ'-xΣy", "1") ∉ (m.exchange "abΣ'-XΣY" "3").2.toList := by
  intro m
  have h : Text.lowerAscii "ABΣ'-xΣy" = Text.lowerAscii "abΣ'-XΣY" := by decide
  have hmem : ("ABΣ'-xΣy", "1") ∈ m.toList := by
    rw [Metadata.mem_toList, Metadata.stored?_insert, if_pos rfl]
  obtain ⟨-, hexchange, -⟩ := lookups_ignore_ascii_case h
  obtain ⟨hvalue, hentries⟩ := hexchange m "1" "3" hmem
  refine ⟨h, hmem, hvalue, fun hold => ?_⟩
  obtain hnew | ⟨-, hne⟩ := (hentries _).mp hold
  · exact absurd hnew (by decide)
  · exact hne rfl

end ServiceHealth
