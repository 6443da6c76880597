import ServiceHealth.Table

/-!
# Laws of tables

What each operation does to `get?`, and `Table.ext_get?`: tables that agree under every key are
equal. Membership in the list of entries is the link, since no key occurs in it twice.
-/
namespace ServiceHealth.Table

universe u v w

variable {κ : Type u} {α : Type v} {β : Type w} [Ord κ]

@[simp] theorem get?_empty (k : κ) : (empty : Table κ α).get? k = none := rfl

/-- The place of a new entry in an ordered list is where the old one with its key is found. -/
theorem replaced_eq_find? [Std.TransOrd κ] {l : List (κ × α)}
    (h : l.Pairwise fun a b => compare a.1 b.1 = .lt) (k : κ) :
    replaced k l = (l.find? fun e => compare k e.1 == .eq).map Prod.snd := by
  induction l with
  | nil => rfl
  | cons e rest ih =>
      obtain ⟨he, hr⟩ := List.pairwise_cons.1 h
      simp only [replaced]
      split
      · rename_i hlt
        have hnone : ∀ f ∈ e :: rest, ¬ (compare k f.1 == .eq) = true := fun f hf => by
          have hkf : compare k f.1 = .lt := by
            rcases List.mem_cons.1 hf with rfl | hf
            · exact hlt
            · exact Std.TransCmp.lt_trans hlt (he f hf)
          simp [hkf]
        rw [List.find?_eq_none.2 hnone]
        rfl
      · rename_i heq
        simp [heq]
      · rename_i hgt
        simp [hgt, ih hr]

/-- A test of the values alone may be made in the table or in its listing. -/
theorem values_filter (t : Table κ α) (p : α → Bool) :
    (t.filter fun _ a => p a).values = t.values.filter p := by
  rw [values, values, List.filter_map]
  rfl

variable [Std.LawfulEqOrd κ]

/-- In an ordered list the entry found under a key is the only one with that key. -/
theorem find?_eq_some_iff_mem {l : List (κ × α)}
    (h : l.Pairwise fun a b => compare a.1 b.1 = .lt) {k : κ} {a : α} :
    (l.find? fun e => compare k e.1 == .eq).map Prod.snd = some a ↔ (k, a) ∈ l := by
  induction l with
  | nil => simp
  | cons e rest ih =>
      obtain ⟨he, hr⟩ := List.pairwise_cons.1 h
      by_cases hk : k = e.1
      · subst hk
        have hrest : (e.1, a) ∉ rest := fun hm => by
          have := he _ hm
          simp [Std.ReflCmp.compare_self] at this
        simp [Std.ReflCmp.compare_self, Prod.ext_iff, hrest, eq_comm]
      · have hne : compare k e.1 ≠ .eq := fun hc => hk (Std.LawfulEqCmp.eq_of_compare hc)
        simp [hne, ih hr, Prod.ext_iff, hk]

theorem get?_eq_some_iff_mem {t : Table κ α} {k : κ} {a : α} :
    t.get? k = some a ↔ (k, a) ∈ t.entries :=
  find?_eq_some_iff_mem t.sorted

theorem mem_keys_iff {t : Table κ α} {k : κ} : k ∈ t.keys ↔ (t.get? k).isSome := by
  simp only [keys, List.mem_map, Option.isSome_iff_exists, get?_eq_some_iff_mem]
  constructor
  · rintro ⟨e, he, rfl⟩
    exact ⟨e.2, he⟩
  · rintro ⟨a, ha⟩
    exact ⟨_, ha, rfl⟩

theorem nodup_keys (t : Table κ α) : t.keys.Nodup := by
  refine List.pairwise_map.mpr (t.sorted.imp fun {a b} hlt heq => ?_)
  have hself : compare b.1 b.1 = .eq := Std.ReflCmp.compare_self
  rw [heq, hself] at hlt
  contradiction

section Keyed

/-- Values that hold their own key are listed in the order of their keys. -/
theorem pairwise_values {t : Table κ α} {key : α → κ} (h : ∀ k, ∀ a ∈ t.get? k, key a = k) :
    t.values.Pairwise fun a b => compare (key a) (key b) = .lt := by
  refine List.pairwise_map.mpr (t.sorted.imp_of_mem fun {a b} ha hb hlt => ?_)
  rwa [h a.1 a.2 (get?_eq_some_iff_mem.mpr ha), h b.1 b.2 (get?_eq_some_iff_mem.mpr hb)]

theorem mem_values_iff {t : Table κ α} {key : α → κ} (h : ∀ k, ∀ a ∈ t.get? k, key a = k) {a : α} :
    a ∈ t.values ↔ t.get? (key a) = some a := by
  simp only [values, List.mem_map]
  constructor
  · rintro ⟨⟨k, _⟩, hmem, rfl⟩
    have hget : t.get? k = some _ := get?_eq_some_iff_mem.mpr hmem
    rwa [h k _ hget]
  · intro hget
    exact ⟨_, get?_eq_some_iff_mem.mp hget, rfl⟩

end Keyed

theorem get?_filter (t : Table κ α) (p : κ → α → Bool) (k : κ) :
    (t.filter p).get? k = (t.get? k).filter (p k) := by
  refine Option.ext fun a => ?_
  simp [get?_eq_some_iff_mem, Option.filter_eq_some_iff, filter]

theorem get?_erase [DecidableEq κ] (t : Table κ α) (k j : κ) :
    (t.erase k).get? j = if j = k then none else t.get? j := by
  rw [erase, get?_filter]
  by_cases h : j = k
  · subst h
    cases t.get? j <;> simp [Option.filter, Std.ReflCmp.compare_self]
  · have hne : compare k j ≠ .eq := fun hc => h (Std.LawfulEqCmp.eq_of_compare hc).symm
    cases t.get? j <;> simp [Option.filter, h, hne]

@[simp] theorem get?_map (t : Table κ α) (f : α → β) (k : κ) :
    (t.map f).get? k = (t.get? k).map f := by
  refine Option.ext fun b => ?_
  rw [get?_eq_some_iff_mem]
  simp only [map, List.mem_map, Prod.mk.injEq, Option.map_eq_some_iff, get?_eq_some_iff_mem]
  constructor
  · rintro ⟨e, he, rfl, rfl⟩
    exact ⟨e.2, he, rfl⟩
  · rintro ⟨a, ha, rfl⟩
    exact ⟨_, ha, rfl, rfl⟩

theorem get?_modify [DecidableEq κ] (t : Table κ α) (k : κ) (f : α → α) (j : κ) :
    (t.modify k f).get? j = if j = k then (t.get? j).map f else t.get? j := by
  refine Option.ext fun b => ?_
  rw [get?_eq_some_iff_mem]
  simp only [modify, List.mem_map, Prod.mk.injEq]
  by_cases h : j = k
  · subst h
    simp only [if_pos, Option.map_eq_some_iff, get?_eq_some_iff_mem]
    constructor
    · rintro ⟨e, he, rfl, rfl⟩
      exact ⟨e.2, he, by simp [Std.ReflCmp.compare_self]⟩
    · rintro ⟨a, ha, rfl⟩
      exact ⟨_, ha, rfl, by simp [Std.ReflCmp.compare_self]⟩
  · have hne : compare k j ≠ .eq := fun hc => h (Std.LawfulEqCmp.eq_of_compare hc).symm
    simp only [if_neg h, get?_eq_some_iff_mem]
    constructor
    · rintro ⟨e, he, rfl, rfl⟩
      simpa [hne] using he
    · intro hm
      exact ⟨_, hm, rfl, by simp [hne]⟩

variable [Std.TransOrd κ]

theorem mem_insertEntry_iff {k : κ} {a : α} {l : List (κ × α)} {e : κ × α}
    (h : l.Pairwise fun a b => compare a.1 b.1 = .lt) :
    e ∈ insertEntry k a l ↔ e = (k, a) ∨ (e ∈ l ∧ e.1 ≠ k) := by
  induction l with
  | nil => simp [insertEntry]
  | cons f rest ih =>
      obtain ⟨hf, hr⟩ := List.pairwise_cons.1 h
      have later : compare k f.1 ≠ .gt → ∀ g ∈ rest, g.1 ≠ k := fun hle g hg hgk => by
        have hlt := hf g hg
        rw [hgk] at hlt
        exact hle (Std.OrientedCmp.gt_of_lt hlt)
      simp only [insertEntry]
      split
      · rename_i hlt
        have hfk : f.1 ≠ k := fun hfk => by simp [hfk, Std.ReflCmp.compare_self] at hlt
        have hrest := later (by simp [hlt])
        constructor
        · intro hm
          rcases List.mem_cons.1 hm with rfl | hm
          · exact .inl rfl
          · rcases List.mem_cons.1 hm with rfl | hm
            · exact .inr ⟨by simp, hfk⟩
            · exact .inr ⟨by simp [hm], hrest _ hm⟩
        · rintro (rfl | ⟨hm, -⟩)
          · simp
          · exact List.mem_cons_of_mem _ hm
      · rename_i heq
        have hkf : k = f.1 := Std.LawfulEqCmp.eq_of_compare heq
        have hrest := later (by simp [heq])
        constructor
        · intro hm
          rcases List.mem_cons.1 hm with rfl | hm
          · exact .inl rfl
          · exact .inr ⟨by simp [hm], hrest _ hm⟩
        · rintro (rfl | ⟨hm, hne⟩)
          · simp
          · rcases List.mem_cons.1 hm with rfl | hm
            · exact absurd hkf.symm hne
            · exact List.mem_cons_of_mem _ hm
      · rename_i hgt
        have hfk : f.1 ≠ k := fun hfk => by simp [hfk, Std.ReflCmp.compare_self] at hgt
        simp only [List.mem_cons, ih hr]
        constructor
        · rintro (rfl | rfl | ⟨hm, hne⟩)
          · exact .inr ⟨.inl rfl, hfk⟩
          · exact .inl rfl
          · exact .inr ⟨.inr hm, hne⟩
        · rintro (rfl | ⟨rfl | hm, hne⟩)
          · exact .inr (.inl rfl)
          · exact .inl rfl
          · exact .inr (.inr ⟨hm, hne⟩)

theorem get?_insert [DecidableEq κ] (t : Table κ α) (k : κ) (a : α) (j : κ) :
    (t.insert k a).get? j = if j = k then some a else t.get? j := by
  refine Option.ext fun b => ?_
  rw [get?_eq_some_iff_mem]
  by_cases h : j = k
  · subst h
    simp [insert, mem_insertEntry_iff t.sorted, eq_comm]
  · simp [insert, mem_insertEntry_iff t.sorted, h, get?_eq_some_iff_mem]

@[simp] theorem get?_insert_self (t : Table κ α) (k : κ) (a : α) :
    (t.insert k a).get? k = some a :=
  get?_eq_some_iff_mem.2 ((mem_insertEntry_iff t.sorted).2 (.inl rfl))

/-- What an insertion replaces is what was held under the key. -/
theorem exchange_eq (t : Table κ α) (k : κ) (a : α) :
    t.exchange k a = (t.get? k, t.insert k a) := by
  rw [exchange, replaced_eq_find? t.sorted, get?]

/-- Strictly ascending lists with the same members are equal. -/
theorem eq_of_mem_iff {l m : List (κ × α)} (hl : l.Pairwise fun a b => compare a.1 b.1 = .lt)
    (hm : m.Pairwise fun a b => compare a.1 b.1 = .lt) (h : ∀ e, e ∈ l ↔ e ∈ m) : l = m := by
  induction l generalizing m with
  | nil =>
      cases m with
      | nil => rfl
      | cons f m => exact absurd ((h f).2 (by simp)) (by simp)
  | cons e l ih =>
      cases m with
      | nil => exact absurd ((h e).1 (by simp)) (by simp)
      | cons f m =>
          obtain ⟨he, hl⟩ := List.pairwise_cons.1 hl
          obtain ⟨hf, hm'⟩ := List.pairwise_cons.1 hm
          have irrefl (g : κ × α) : compare g.1 g.1 ≠ .lt := by simp [Std.ReflCmp.compare_self]
          have hef : e = f := by
            rcases List.mem_cons.1 ((h e).1 (by simp)) with hef | hin
            · exact hef
            · rcases List.mem_cons.1 ((h f).2 (by simp)) with hfe | hin'
              · exact hfe.symm
              · exact absurd (Std.TransCmp.lt_trans (he f hin') (hf e hin)) (irrefl e)
          subst hef
          refine congrArg (e :: ·) (ih hl hm' fun g => ⟨fun hg => ?_, fun hg => ?_⟩)
          · rcases List.mem_cons.1 ((h g).1 (by simp [hg])) with rfl | hin
            · exact absurd (he g hg) (irrefl g)
            · exact hin
          · rcases List.mem_cons.1 ((h g).2 (by simp [hg])) with rfl | hin
            · exact absurd (hf g hg) (irrefl g)
            · exact hin

/-- Tables that hold the same under every key are equal. -/
theorem ext_get? {s t : Table κ α} (h : ∀ k, s.get? k = t.get? k) : s = t := by
  have : s.entries = t.entries := eq_of_mem_iff s.sorted t.sorted fun e => by
    rw [← get?_eq_some_iff_mem, ← get?_eq_some_iff_mem, h]
  cases s
  cases t
  simp_all

end ServiceHealth.Table
