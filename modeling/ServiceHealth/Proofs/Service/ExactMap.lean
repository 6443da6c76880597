import Mathlib.Data.List.Induction
import Mathlib.Data.List.Nodup
import ServiceHealth.Proofs.Service.Metadata

/-!
# Metadata as a map with exact keys

Metadata goes out as a map with exact keys and comes back from one. Keys that metadata holds apart
differ in more than case, so none is lost on the way out and none is refused on the way back; and a
map is refused only if two of its keys would fall together.
-/
namespace ServiceHealth

namespace Table

variable {κ α : Type} [Ord κ] [Std.LawfulEqOrd κ] [Std.TransOrd κ]

/-- The entries of a table that pairs make up are the last pairs of their keys. -/
theorem mem_ofList_iff [DecidableEq κ] {pairs : List (κ × α)} {e : κ × α} :
    e ∈ (ofList pairs).entries ↔ (pairs.filter fun p => p.1 = e.1).getLast? = some e := by
  induction pairs using List.reverseRecOn with
  | nil => simp [ofList, empty]
  | append_singleton pairs p ih =>
    have hlast : ofList (pairs ++ [p]) = (ofList pairs).insert p.1 p.2 := by
      simp [ofList, List.foldl_append]
    obtain ⟨key, value⟩ := p
    rw [hlast, insert, mem_insertEntry_iff (ofList pairs).sorted, ih, List.filter_append]
    by_cases hkey : key = e.1
    · simp [hkey, eq_comm]
    · have hne : e ≠ (key, value) := fun heq => hkey (heq ▸ rfl)
      simp [hkey, hne, Ne.symm hkey]

theorem mem_of_mem_ofList {pairs : List (κ × α)} {e : κ × α} (h : e ∈ (ofList pairs).entries) :
    e ∈ pairs := by
  classical
  exact (List.mem_filter.mp (List.mem_of_getLast? (mem_ofList_iff.mp h))).1

/-- The key of every pair is one of the table. -/
theorem exists_mem_ofList {pairs : List (κ × α)} {e : κ × α} (h : e ∈ pairs) :
    ∃ f ∈ (ofList pairs).entries, f.1 = e.1 := by
  classical
  have hne : (pairs.filter fun p => p.1 = e.1) ≠ [] :=
    List.ne_nil_of_mem (List.mem_filter.mpr ⟨h, decide_eq_true rfl⟩)
  obtain ⟨f, hlast⟩ := Option.ne_none_iff_exists'.mp (List.getLast?_eq_none_iff.not.mpr hne)
  have hkey : f.1 = e.1 := of_decide_eq_true (List.mem_filter.mp (List.mem_of_getLast? hlast)).2
  exact ⟨f, mem_ofList_iff.mpr (hkey ▸ hlast), hkey⟩

/-- Pairs with different keys are the entries of the table that they make up. -/
theorem mem_ofList {pairs : List (κ × α)} (h : (pairs.map Prod.fst).Nodup) {e : κ × α} :
    e ∈ (ofList pairs).entries ↔ e ∈ pairs := by
  refine ⟨mem_of_mem_ofList, fun he => ?_⟩
  obtain ⟨f, hf, hkey⟩ := exists_mem_ofList he
  rwa [← List.inj_on_of_nodup_map h (mem_of_mem_ofList hf) he hkey]

theorem ext_entries {s t : Table κ α} (h : ∀ e, e ∈ s.entries ↔ e ∈ t.entries) : s = t :=
  ext_get? fun k => Option.ext fun a => by
    rw [get?_eq_some_iff_mem, get?_eq_some_iff_mem, h]

theorem ofList_entries (t : Table κ α) : ofList t.entries = t :=
  ext_entries fun _ => mem_ofList t.nodup_keys

end Table

namespace Metadata

theorem Apart.eq_of_fold_eq {pairs : List (String × String)} (h : Apart pairs)
    {p q : String × String} (hp : p ∈ pairs) (hq : q ∈ pairs)
    (heq : Text.fold p.1 = Text.fold q.1) : p = q :=
  List.inj_on_of_nodup_map h hp hq heq

variable (m : Metadata)

/-- Pairs that keep apart all become entries. -/
theorem Apart.mem_toList_ofList {pairs : List (String × String)} (h : Apart pairs)
    {p : String × String} : p ∈ (ofList pairs).toList ↔ p ∈ pairs := by
  rw [mem_toList, stored?_ofList]
  constructor
  · exact fun hlast => (mem_of_lastUnder hlast).1
  · intro hp
    obtain ⟨q, hq⟩ := exists_lastUnder hp
    obtain ⟨hmem, hfold⟩ := mem_of_lastUnder hq
    rw [hq, h.eq_of_fold_eq hmem hp hfold]

theorem ext_toList {m n : Metadata} (h : ∀ p, p ∈ m.toList ↔ p ∈ n.toList) : m = n := by
  refine ext_stored? fun folded => Option.ext fun p => ?_
  constructor
  · intro hp
    obtain rfl := m.fold_of_stored? hp
    exact n.mem_toList.mp ((h p).mp (m.mem_toList.mpr hp))
  · intro hp
    obtain rfl := n.fold_of_stored? hp
    exact m.mem_toList.mp ((h p).mpr (n.mem_toList.mpr hp))

theorem mem_toMap {p : String × String} : p ∈ m.toMap.entries ↔ p ∈ m.toList := by
  refine Table.mem_ofList ?_
  have hfolded : ((m.toList.map Prod.fst).map Text.fold).Nodup := by
    rw [List.map_map]
    exact m.apart_toList
  exact hfolded.of_map

theorem toMap_perm : m.toMap.entries.Perm m.toList :=
  (List.perm_ext_iff_of_nodup m.toMap.nodup_keys.of_map m.apart_toList.of_map).mpr fun _ =>
    m.mem_toMap

/-- Either all pairs are new and keep apart, and then all are taken, or some pair meets an entry
that was there or was just taken, and the two spellings of the key are reported. -/
theorem insertNew_cases (pairs : List (String × String)) :
    (m.insertNew pairs = .ok (m.merge pairs) ∧ Apart pairs ∧
      ∀ p ∈ pairs, m.stored? (Text.fold p.1) = none) ∨
    ∃ before p q later, pairs = before ++ q :: later ∧
      (m.merge before).stored? (Text.fold q.1) = some p ∧
      m.insertNew pairs = .error (.invalid (.keysDifferInCase p.1 q.1)) := by
  induction pairs generalizing m with
  | nil => exact .inl ⟨rfl, List.nodup_nil, by simp⟩
  | cons p pairs ih =>
    obtain ⟨key, value⟩ := p
    simp only [insertNew]
    cases hentry : m.table.get? (Text.fold key) with
    | some e =>
      have hheld : (m.merge []).stored? (Text.fold key) = some (e.key, e.value) := by
        simp [merge, stored?, hentry]
      exact .inr ⟨[], (e.key, e.value), (key, value), pairs, rfl, hheld, rfl⟩
    | none =>
      have hnew : m.stored? (Text.fold key) = none := by rw [stored?, hentry, Option.map_none]
      obtain ⟨hok, hapart, hfresh⟩ | ⟨before, p, q, later, rfl, hp, herror⟩ :=
        ih (m.insert key value)
      · refine .inl ⟨hok, List.nodup_cons.mpr ⟨?_, hapart⟩, ?_⟩
        · rintro hmem
          obtain ⟨q, hq, hfold⟩ := List.mem_map.mp hmem
          have hfree := hfresh q hq
          rw [stored?_insert, if_pos hfold.symm] at hfree
          contradiction
        · intro q hq
          obtain rfl | hq := List.mem_cons.mp hq
          · exact hnew
          · have hq := hfresh q hq
            rw [stored?_insert] at hq
            split at hq
            · contradiction
            · exact hq
      · exact .inr ⟨(key, value) :: before, p, q, later, rfl, hp, herror⟩

/-- A map is taken as it is if its keys keep apart. Otherwise two of them are reported, the smaller
one first. -/
theorem ofMap_cases (map : Table String String) :
    (ofMap map = .ok (ofList map.entries) ∧ Apart map.entries) ∨
    ∃ p ∈ map.entries, ∃ q ∈ map.entries, p.1 < q.1 ∧ Text.fold p.1 = Text.fold q.1 ∧
      ofMap map = .error (.invalid (.keysDifferInCase p.1 q.1)) := by
  obtain ⟨hok, hapart, -⟩ | ⟨before, p, q, later, hentries, hp, herror⟩ :=
    insertNew_cases empty map.entries
  · exact .inl ⟨hok, hapart⟩
  · rw [← ofList, stored?_ofList] at hp
    obtain ⟨hmem, hfold⟩ := mem_of_lastUnder hp
    have hsorted := map.sorted
    rw [hentries, List.pairwise_append] at hsorted
    have hlt := compareOfLessAndEq_eq_lt.mp (hsorted.2.2 p hmem q List.mem_cons_self)
    refine .inr ⟨p, ?_, q, ?_, hlt, hfold, herror⟩
    · rw [hentries]
      exact List.mem_append_left _ hmem
    · rw [hentries]
      exact List.mem_append_right _ List.mem_cons_self

/-- A map that is taken is given back. -/
theorem toMap_of_ofMap {map : Table String String} (h : ofMap map = .ok m) : m.toMap = map := by
  obtain ⟨hok, hapart⟩ | ⟨p, -, q, -, -, -, herror⟩ := ofMap_cases map
  · obtain rfl : m = ofList map.entries := Except.ok.inj (h.symm.trans hok)
    exact Table.ext_entries fun p => (mem_toMap _).trans hapart.mem_toList_ofList
  · rw [herror] at h
    contradiction

/-- The map with exact keys says all that there is to know of metadata. -/
theorem ofMap_toMap : ofMap m.toMap = .ok m := by
  obtain ⟨hok, hapart⟩ | ⟨p, hp, q, hq, hlt, hfold, -⟩ := ofMap_cases m.toMap
  · rw [hok]
    exact congrArg Except.ok (ext_toList fun p => hapart.mem_toList_ofList.trans m.mem_toMap)
  · rw [m.apart_toList.eq_of_fold_eq (m.mem_toMap.mp hp) (m.mem_toMap.mp hq) hfold] at hlt
    exact absurd hlt (String.lt_irrefl _)

/-- Nothing is lost between metadata and maps with exact keys. A map is refused exactly if two of
its keys are equal but for letter case, the refusal names two such keys, and a map that is not
refused is given back as it was. All metadata, however it was written, goes out with every entry and
comes back the same. -/
theorem conversion_is_lossless (map : Table String String) (m : Metadata) :
    ((∃ cause, ofMap map = .error (.invalid cause)) ↔
      ∃ a ∈ map.keys, ∃ b ∈ map.keys, a ≠ b ∧ Text.fold a = Text.fold b) ∧
    (∀ e, ofMap map = .error e → ∃ a ∈ map.keys, ∃ b ∈ map.keys,
      a < b ∧ Text.fold a = Text.fold b ∧ e = .invalid (.keysDifferInCase a b)) ∧
    (∀ n, ofMap map = .ok n → n.toMap = map) ∧
    m.toMap.entries.Perm m.toList ∧ m.toMap.size = m.size ∧ ofMap m.toMap = .ok m := by
  have hsize : m.toMap.size = m.size := by
    simpa [toList, Table.values, Table.size, size] using m.toMap_perm.length_eq
  refine ⟨?_, ?_, fun n hn => n.toMap_of_ofMap hn, m.toMap_perm, hsize, m.ofMap_toMap⟩
  · obtain ⟨hok, hapart⟩ | ⟨p, hp, q, hq, hlt, hfold, herror⟩ := ofMap_cases map
    · constructor
      · rintro ⟨cause, herror⟩
        rw [hok] at herror
        contradiction
      · rintro ⟨a, ha, b, hb, hne, hfold⟩
        obtain ⟨p, hp, rfl⟩ := List.mem_map.mp ha
        obtain ⟨q, hq, rfl⟩ := List.mem_map.mp hb
        exact absurd (congrArg Prod.fst (hapart.eq_of_fold_eq hp hq hfold)) hne
    · refine iff_of_true ⟨_, herror⟩
        ⟨p.1, List.mem_map_of_mem hp, q.1, List.mem_map_of_mem hq, ?_, hfold⟩
      intro heq
      rw [heq] at hlt
      exact String.lt_irrefl _ hlt
  · intro e he
    obtain ⟨hok, -⟩ | ⟨p, hp, q, hq, hlt, hfold, herror⟩ := ofMap_cases map
    · rw [hok] at he
      contradiction
    · exact ⟨p.1, List.mem_map_of_mem hp, q.1, List.mem_map_of_mem hq, hlt, hfold,
        Except.error.inj (he.symm.trans herror)⟩

end Metadata

end ServiceHealth
