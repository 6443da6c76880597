import Mathlib.Data.List.Forall2
import Mathlib.Data.List.TakeDrop
import Mathlib.Data.List.TakeWhile
import ServiceHealth.Error
import ServiceHealth.Probe.Header
import ServiceHealth.Proofs.Text.Trimming
import ServiceHealth.Text.Pieces

/-!
# Entries and the headers they spell

An entry spells a header if its name and its value are the two sides of the first equals sign. It
is read exactly if neither side is blank. Entries are read, and headers are checked, up to the first
one that fails.
-/
namespace ServiceHealth

theorem exists_of_forall₂ {α β : Type} {R : α → β → Prop} {l : List α} {m : List β}
    (h : List.Forall₂ R l m) {a : α} (ha : a ∈ l) : ∃ b ∈ m, R a b := by
  induction h with
  | nil => contradiction
  | cons hab _ ih =>
    obtain rfl | ha := List.mem_cons.mp ha
    · exact ⟨_, List.mem_cons_self, hab⟩
    · obtain ⟨b, hb, hab⟩ := ih ha
      exact ⟨b, List.mem_cons_of_mem _ hb, hab⟩

namespace Probe.Header

/-- An entry spells a header: the name stands before its first equals sign and the value after it,
blanks around them aside. -/
def Spells (entry : String) (h : Header) : Prop :=
  ∃ before after, entry.toList = before ++ '=' :: after ∧ '=' ∉ before ∧
    h.name.toList = Text.trimChars before ∧ h.value.toList = Text.trimChars after

/-- A header may stand in a request: its name is a token that is not too long, and its value has no
controls but tabs. -/
structure Sendable (h : Header) : Prop where
  name : isName h.name
  value : ∀ c ∈ h.value.toList, isValueChar c

variable {entry : String} {h : Header} {headers : List Header}

/-- There is one header at most that an entry spells. -/
theorem Spells.unique {g : Header} (hg : Spells entry g) (hh : Spells entry h) : g = h := by
  obtain ⟨before, after, hentry, hbefore, hname, hvalue⟩ := hg
  obtain ⟨before', after', hentry', hbefore', hname', hvalue'⟩ := hh
  have hsplit := @Text.append_cons_inj _ (· == '=') before before' after after' '=' '='
    (fun c hc => beq_eq_false_iff_ne.mpr fun heq => hbefore (heq ▸ hc))
    (fun c hc => beq_eq_false_iff_ne.mpr fun heq => hbefore' (heq ▸ hc)) rfl rfl
    (hentry.symm.trans hentry')
  obtain ⟨rfl, -, rfl⟩ := hsplit
  cases g
  cases h
  congr 1
  · exact String.toList_inj.mp (hname.trans hname'.symm)
  · exact String.toList_inj.mp (hvalue.trans hvalue'.symm)

theorem ofEntry_of_append {before after : List Char}
    (hentry : entry.toList = before ++ '=' :: after) (hbefore : '=' ∉ before) : ofEntry entry =
      if (Text.trimChars before).isEmpty || (Text.trimChars after).isEmpty then
        .error (.config (.headerPartEmpty entry))
      else .ok ⟨String.ofList (Text.trimChars before), String.ofList (Text.trimChars after)⟩ := by
  have hnot : ∀ c ∈ before, (c != '=') = true := fun c hc => bne_iff_ne.mpr fun heq =>
    hbefore (heq ▸ hc)
  have hspan : entry.toList.span (· != '=') = (before, '=' :: after) := by
    rw [hentry, List.span_eq_takeWhile_dropWhile, List.takeWhile_append_of_pos hnot,
      List.dropWhile_append_of_pos hnot]
    simp
  rw [ofEntry, hspan]

theorem ofEntry_of_notMem (h : '=' ∉ entry.toList) :
    ofEntry entry = .error (.config (.headerWithoutSeparator entry)) := by
  have hnot : ∀ c ∈ entry.toList, (c != '=') = true := fun c hc => bne_iff_ne.mpr fun heq =>
    h (heq ▸ hc)
  have hspan : entry.toList.span (· != '=') = (entry.toList, []) := by
    rw [List.span_eq_takeWhile_dropWhile, List.takeWhile_eq_self_iff.mpr hnot,
      List.dropWhile_eq_nil_iff.mpr hnot]
  rw [ofEntry, hspan]

theorem isEmpty_toList_eq_false {s : String} {cs : List Char} (h : s.toList = cs) (hne : s ≠ "") :
    cs.isEmpty = false := by
  rw [← h, List.isEmpty_eq_false_iff]
  exact fun hnil => hne (String.toList_eq_nil_iff.mp hnil)

/-- An entry is read as a header exactly if it spells one with a name and a value. -/
theorem ofEntry_eq_ok_iff :
    ofEntry entry = .ok h ↔ Spells entry h ∧ h.name ≠ "" ∧ h.value ≠ "" := by
  constructor
  · intro hread
    by_cases hmem : '=' ∈ entry.toList
    · obtain ⟨before, after, hentry, hbefore⟩ := List.eq_append_cons_of_mem hmem
      rw [ofEntry_of_append hentry hbefore] at hread
      split at hread
      · contradiction
      · rename_i hparts
        obtain rfl := Except.ok.inj hread
        simp only [Bool.or_eq_true, List.isEmpty_iff, not_or] at hparts
        refine ⟨⟨before, after, hentry, hbefore, String.toList_ofList, String.toList_ofList⟩,
          ?_, ?_⟩
        · simpa using hparts.1
        · simpa using hparts.2
    · rw [ofEntry_of_notMem hmem] at hread
      contradiction
  · rintro ⟨⟨before, after, hentry, hbefore, hname, hvalue⟩, hnamed, hvalued⟩
    rw [ofEntry_of_append hentry hbefore, isEmpty_toList_eq_false hname hnamed,
      isEmpty_toList_eq_false hvalue hvalued, ← hname, ← hvalue, String.ofList_toList,
      String.ofList_toList]
    rfl

/-- An entry has an equals sign, with more than blanks before the first one and after it. -/
def Complete (entry : String) : Prop :=
  ∃ before after, entry.toList = before ++ '=' :: after ∧ '=' ∉ before ∧
    (∃ c ∈ before, Text.isBlank c = false) ∧ ∃ c ∈ after, Text.isBlank c = false

def complaint (entry : String) : ConfigCause :=
  if '=' ∈ entry.toList then .headerPartEmpty entry else .headerWithoutSeparator entry

theorem trimChars_ne_nil_iff {cs : List Char} :
    Text.trimChars cs ≠ [] ↔ ∃ c ∈ cs, Text.isBlank c = false := by
  rw [ne_eq, Text.trimChars_eq_nil_iff]
  simp

/-- An entry is complete exactly if it can be read. -/
theorem complete_iff : Complete entry ↔ ∃ h, ofEntry entry = .ok h := by
  constructor
  · rintro ⟨before, after, hentry, hbefore, hname, hvalue⟩
    rw [ofEntry_of_append hentry hbefore,
      List.isEmpty_eq_false_iff.mpr (trimChars_ne_nil_iff.mpr hname),
      List.isEmpty_eq_false_iff.mpr (trimChars_ne_nil_iff.mpr hvalue)]
    exact ⟨_, rfl⟩
  · rintro ⟨h, hread⟩
    obtain ⟨⟨before, after, hentry, hbefore, hname, hvalue⟩, hnamed, hvalued⟩ :=
      ofEntry_eq_ok_iff.mp hread
    have hfirst := isEmpty_toList_eq_false hname hnamed
    have hsecond := isEmpty_toList_eq_false hvalue hvalued
    exact ⟨before, after, hentry, hbefore,
      trimChars_ne_nil_iff.mp (List.isEmpty_eq_false_iff.mp hfirst),
      trimChars_ne_nil_iff.mp (List.isEmpty_eq_false_iff.mp hsecond)⟩

theorem ofEntry_of_not_complete (h : ¬Complete entry) :
    ofEntry entry = .error (.config (complaint entry)) := by
  by_cases hmem : '=' ∈ entry.toList
  · obtain ⟨before, after, hentry, hbefore⟩ := List.eq_append_cons_of_mem hmem
    have hread := ofEntry_of_append hentry hbefore
    split at hread
    · rw [hread, complaint, if_pos hmem]
    · exact absurd (complete_iff.mpr ⟨_, hread⟩) h
  · rw [ofEntry_of_notMem hmem, complaint, if_neg hmem]

/-- Reading entries stops at the first one that is not complete. -/
theorem ofEntries_cases (entries : List String) :
    (∃ headers, ofEntries entries = .ok headers) ∧ (∀ entry ∈ entries, Complete entry) ∨
    ∃ before entry after, entries = before ++ entry :: after ∧ (∀ e ∈ before, Complete e) ∧
      ¬Complete entry ∧ ofEntries entries = .error (.config (complaint entry)) := by
  induction entries with
  | nil => exact .inl ⟨⟨[], rfl⟩, by simp⟩
  | cons entry rest ih =>
    have hcons : ofEntries (entry :: rest) =
        (ofEntry entry >>= fun h => ofEntries rest >>= fun hs => .ok (h :: hs)) :=
      List.mapM_cons
    by_cases hentry : Complete entry
    · obtain ⟨h, hread⟩ := complete_iff.mp hentry
      obtain ⟨⟨headers, hrest⟩, hall⟩ | ⟨before, e, after, rfl, hbefore, hnot, hfail⟩ := ih
      · exact .inl ⟨⟨h :: headers, by rw [hcons, hread, hrest]; rfl⟩,
          List.forall_mem_cons.mpr ⟨hentry, hall⟩⟩
      · exact .inr ⟨entry :: before, e, after, rfl, List.forall_mem_cons.mpr ⟨hentry, hbefore⟩,
          hnot, by rw [hcons, hread, hfail]; rfl⟩
    · exact .inr ⟨[], entry, rest, rfl, by simp, hentry,
        by rw [hcons, ofEntry_of_not_complete hentry]; rfl⟩

/-- Entries are read exactly if each of them is. -/
theorem ofEntries_eq_ok_iff {entries : List String} : ofEntries entries = .ok headers ↔
    List.Forall₂ (fun entry h => ofEntry entry = .ok h) entries headers := by
  induction entries generalizing headers with
  | nil =>
    rw [List.forall₂_nil_left_iff]
    exact ⟨fun h => (Except.ok.inj h).symm, fun h => h ▸ rfl⟩
  | cons entry entries ih =>
    rw [ofEntries, List.mapM_cons, List.forall₂_cons_left_iff]
    simp only [bind_eq_ok, ← ih, ofEntries]
    constructor
    · rintro ⟨first, hfirst, rest, hrest, h⟩
      exact ⟨first, rest, hfirst, hrest, (Except.ok.inj h).symm⟩
    · rintro ⟨first, rest, hfirst, hrest, rfl⟩
      exact ⟨first, hfirst, rest, hrest, rfl⟩

theorem spells_of_ofEntries {entries : List String} (h : ofEntries entries = .ok headers) :
    List.Forall₂ (fun entry h => Spells entry h ∧ h.name ≠ "" ∧ h.value ≠ "") entries headers :=
  (ofEntries_eq_ok_iff.mp h).imp fun _ _ => ofEntry_eq_ok_iff.mp

theorem check_eq_ok_iff : h.check = .ok () ↔ h.Sendable := by
  unfold check
  constructor
  · intro hcheck
    split at hcheck
    · contradiction
    split at hcheck
    · contradiction
    rename_i hname hvalue
    exact ⟨by simpa using hname, by simpa using hvalue⟩
  · rintro ⟨hname, hvalue⟩
    simpa [hname] using hvalue

/-- Checking headers stops at the first one that may not stand in a request. -/
theorem checkAll_cases (headers : List Header) :
    checkAll headers = .ok () ∧ (∀ h ∈ headers, h.Sendable) ∨
    ∃ before h after e, headers = before ++ h :: after ∧ (∀ g ∈ before, g.Sendable) ∧
      ¬h.Sendable ∧ h.check = .error e ∧ checkAll headers = .error e := by
  induction headers with
  | nil => exact .inl ⟨rfl, by simp⟩
  | cons h rest ih =>
    have hcons : checkAll (h :: rest) = (h.check >>= fun _ => checkAll rest) := rfl
    cases hcheck : h.check with
    | error e =>
      have hnot : ¬h.Sendable := fun hs => by
        rw [check_eq_ok_iff.mpr hs] at hcheck
        contradiction
      exact .inr ⟨[], h, rest, e, rfl, by simp, hnot, hcheck, by rw [hcons, hcheck]; rfl⟩
    | ok =>
      have hs : h.Sendable := check_eq_ok_iff.mp hcheck
      have hrest : checkAll (h :: rest) = checkAll rest := by rw [hcons, hcheck]; rfl
      rw [hrest]
      obtain ⟨hall, hsendable⟩ | ⟨before, g, after, e, rfl, hbefore, hlater⟩ := ih
      · exact .inl ⟨hall, List.forall_mem_cons.mpr ⟨hs, hsendable⟩⟩
      · exact .inr ⟨h :: before, g, after, e, rfl, List.forall_mem_cons.mpr ⟨hs, hbefore⟩, hlater⟩

end Probe.Header

end ServiceHealth
