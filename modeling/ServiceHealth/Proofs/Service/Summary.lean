import Mathlib.Data.List.Induction
import ServiceHealth.Proofs.Service.Metadata
import ServiceHealth.Service.Summary

/-!
# What a summary says

A summary is made in one pass over the entries of all instances. What it holds under a folded key
is a function of the entries under this key alone, and each instance has one of them at most. So a
summary says of every key which instance spells it first, how many instances carry it and with which
values, and but for the spelling none of this depends on the order of the instances.
-/
namespace ServiceHealth

namespace Metadata

/-- Under a folded key one entry at most is listed. -/
theorem filter_toList (m : Metadata) (folded : String) :
    m.toList.filter (fun p => Text.fold p.1 = folded) = (m.stored? folded).toList := by
  have hmem : ∀ p, p ∈ m.toList.filter (fun p => Text.fold p.1 = folded) ↔
      m.stored? folded = some p := by
    intro p
    rw [List.mem_filter, decide_eq_true_iff, mem_toList]
    constructor
    · rintro ⟨hp, rfl⟩
      exact hp
    · intro hp
      have hfold := m.fold_of_stored? hp
      exact ⟨hfold.symm ▸ hp, hfold⟩
  cases hstored : m.stored? folded with
  | none =>
    refine List.eq_nil_iff_forall_not_mem.mpr fun p hp => ?_
    have hsome := (hmem p).mp hp
    rw [hstored] at hsome
    contradiction
  | some p =>
    have hnodup := (m.apart_toList.of_map).filter fun p => decide (Text.fold p.1 = folded)
    refine List.perm_singleton.mp
      ((List.perm_ext_iff_of_nodup hnodup (List.nodup_singleton p)).mpr fun q => ?_)
    rw [hmem, hstored, Option.some.injEq, List.mem_singleton, eq_comm]

variable {key other : String}

theorem get?_of_fold_eq (h : Text.fold key = Text.fold other) (m : Metadata) :
    m.get? key = m.get? other := by
  rw [get?_eq, get?_eq, h]

theorem contains_of_fold_eq (h : Text.fold key = Text.fold other) (m : Metadata) :
    m.contains key = m.contains other := by
  rw [contains_eq, contains_eq, h]

end Metadata

namespace KeySummary

/-- The values, each in its first spelling: what has come before in some letter case is dropped. -/
def firstSpellings (values : List String) : List String := values.eraseDupsBy Text.sameFold

theorem eraseDupsBy_loop_concat {α : Type} (r : α → α → Bool) (l kept : List α) (a : α) :
    List.eraseDupsBy.loop r (l ++ [a]) kept =
      if (List.eraseDupsBy.loop r l kept).any (r a) then List.eraseDupsBy.loop r l kept
      else List.eraseDupsBy.loop r l kept ++ [a] := by
  induction l generalizing kept with
  | nil =>
    simp only [List.nil_append, List.eraseDupsBy.loop, List.any_reverse]
    cases kept.any (r a) with
    | true => rfl
    | false => simp
  | cons b l ih =>
    rw [List.cons_append, List.eraseDupsBy.loop, List.eraseDupsBy.loop]
    cases kept.any (r b) with
    | true => exact ih kept
    | false => exact ih (b :: kept)

theorem firstSpellings_concat (values : List String) (v : String) :
    firstSpellings (values ++ [v]) = if (firstSpellings values).any (Text.sameFold v) then
      firstSpellings values else firstSpellings values ++ [v] :=
  eraseDupsBy_loop_concat Text.sameFold values [] v

theorem any_sameFold {values : List String} {v : String} :
    values.any (Text.sameFold v) ↔ Text.fold v ∈ values.map Text.fold := by
  simp only [List.any_eq_true, Text.sameFold, decide_eq_true_iff, List.mem_map]
  exact exists_congr fun w => and_congr_right fun _ => eq_comm

/-- Every value is still there in some letter case. -/
theorem mem_map_firstSpellings {values : List String} {folded : String} :
    folded ∈ (firstSpellings values).map Text.fold ↔ folded ∈ values.map Text.fold := by
  induction values using List.reverseRecOn with
  | nil => rfl
  | append_singleton values v ih =>
    rw [firstSpellings_concat, List.map_append, List.mem_append, ← ih]
    split
    · rename_i hold
      have hv := any_sameFold.mp hold
      constructor
      · exact Or.inl
      · rintro (hmem | hmem)
        · exact hmem
        · rw [List.map_singleton, List.mem_singleton] at hmem
          exact hmem ▸ hv
    · rw [List.map_append, List.mem_append]

/-- No two values are left that differ in letter case only. -/
theorem nodup_map_firstSpellings (values : List String) :
    ((firstSpellings values).map Text.fold).Nodup := by
  induction values using List.reverseRecOn with
  | nil => exact List.nodup_nil
  | append_singleton values v ih =>
    rw [firstSpellings_concat]
    split
    · exact ih
    · rename_i hnew
      have hv := mt any_sameFold.mpr hnew
      rw [List.map_append, List.map_singleton, List.nodup_append]
      refine ⟨ih, List.nodup_singleton _, fun a ha b hb heq => ?_⟩
      rw [List.mem_singleton] at hb
      exact hv (hb ▸ heq ▸ ha)

theorem length_firstSpellings_le (values : List String) :
    (firstSpellings values).length ≤ values.length := by
  induction values using List.reverseRecOn with
  | nil => exact Nat.le_refl 0
  | append_singleton values v ih =>
    rw [firstSpellings_concat, List.length_append]
    split
    · omega
    · rw [List.length_append]
      omega

theorem length_firstSpellings_pos {values : List String} (h : values ≠ []) :
    0 < (firstSpellings values).length := by
  obtain ⟨v, hv⟩ := List.exists_mem_of_ne_nil values h
  have hmem := mem_map_firstSpellings.mpr (List.mem_map_of_mem (f := Text.fold) hv)
  rw [← List.length_map (f := Text.fold)]
  exact List.length_pos_of_mem hmem

/-- What entries under one key say about it. -/
def ofUses : List (String × String) → Option KeySummary
  | [] => none
  | p :: uses => some ⟨p.1, uses.length + 1, firstSpellings (p.2 :: uses.map Prod.snd)⟩

theorem ofUses_concat (uses : List (String × String)) (p : String × String) :
    ofUses (uses ++ [p]) = some (((ofUses uses).getD ⟨p.1, 0, []⟩).add p.2) := by
  cases uses with
  | nil => rfl
  | cons q uses =>
    have hvalues := firstSpellings_concat (q.2 :: uses.map Prod.snd) p.2
    simp only [List.cons_append, ofUses, List.length_append, List.length_singleton,
      List.map_append, List.map_singleton, Option.getD_some, add]
    rw [← List.cons_append, hvalues]
    rfl

end KeySummary

namespace MetadataSummary

/-- What the pass holds under a folded key comes from the entries under it. -/
theorem get?_foldl_addEntry (entries : List (String × String)) (folded : String) :
    (entries.foldl addEntry .empty).get? folded =
      KeySummary.ofUses (entries.filter fun p => Text.fold p.1 = folded) := by
  induction entries using List.reverseRecOn with
  | nil => rfl
  | append_singleton entries p ih =>
    rw [List.foldl_append, List.foldl_cons, List.foldl_nil, List.filter_append, addEntry,
      Table.get?_insert]
    by_cases h : folded = Text.fold p.1
    · subst h
      have hsame : [p].filter (fun q => Text.fold q.1 = Text.fold p.1) = [p] := by simp
      rw [if_pos rfl, ih, hsame, KeySummary.ofUses_concat]
    · have hother : [p].filter (fun q => Text.fold q.1 = folded) = [] := by simp [Ne.symm h]
      rw [if_neg h, ih, hother, List.append_nil]

/-- The entries of instances under a folded key. -/
def usesOf (instances : List Instance) (folded : String) : List (String × String) :=
  instances.filterMap fun i => i.metadata.stored? folded

/-- The table from which a summary of instances is made. -/
def tableOf (instances : List Instance) : Table String KeySummary :=
  (instances.flatMap (·.metadata.toList)).foldl addEntry .empty

variable {instances : List Instance} {folded : String} {k : KeySummary}

theorem get?_tableOf (instances : List Instance) (folded : String) :
    (tableOf instances).get? folded = KeySummary.ofUses (usesOf instances folded) := by
  rw [tableOf, get?_foldl_addEntry, List.filter_flatMap, usesOf, List.filterMap_eq_flatMap_toList]
  simp only [Metadata.filter_toList]

theorem fold_of_mem_usesOf {p : String × String} (h : p ∈ usesOf instances folded) :
    Text.fold p.1 = folded := by
  obtain ⟨i, -, hi⟩ := List.mem_filterMap.mp h
  exact i.metadata.fold_of_stored? hi

/-- Every entry of the table is held under its folded key. -/
theorem keyed_tableOf (instances : List Instance) (folded : String) :
    ∀ k ∈ (tableOf instances).get? folded, Text.fold k.key = folded := by
  intro k hk
  rw [get?_tableOf] at hk
  cases huses : usesOf instances folded with
  | nil =>
    rw [huses] at hk
    contradiction
  | cons p uses =>
    rw [huses] at hk
    obtain rfl := Option.some.inj hk
    have hp : p ∈ usesOf instances folded := huses ▸ List.mem_cons_self
    exact fold_of_mem_usesOf hp

theorem keys_eq (now : Timestamp) (name : String) (instances : List Instance) :
    (ofInstances now name instances).keys = (tableOf instances).values := rfl

/-- The entry of a key is what its uses say. -/
theorem mem_keys {now : Timestamp} {name : String} : k ∈ (ofInstances now name instances).keys ↔
    KeySummary.ofUses (usesOf instances (Text.fold k.key)) = some k := by
  rw [← get?_tableOf, keys_eq]
  exact Table.mem_values_iff (keyed_tableOf instances)

theorem keys_ascending (now : Timestamp) (name : String) (instances : List Instance) :
    (ofInstances now name instances).keys.Pairwise
      fun k l => Text.fold k.key < Text.fold l.key := by
  rw [keys_eq]
  exact (Table.pairwise_values (keyed_tableOf instances)).imp
    fun hlt => compareOfLessAndEq_eq_lt.mp hlt

theorem isSome_ofUses {uses : List (String × String)} :
    (KeySummary.ofUses uses).isSome ↔ uses ≠ [] := by
  cases uses <;> simp [KeySummary.ofUses]

theorem contains_iff_stored? {i : Instance} {key : String} :
    i.metadata.contains key ↔ ∃ p, i.metadata.stored? (Text.fold key) = some p := by
  rw [Metadata.contains_eq, Option.isSome_iff_exists]

/-- A key has an entry if some instance carries it. -/
theorem exists_key_iff {now : Timestamp} {name key : String} :
    (∃ k ∈ (ofInstances now name instances).keys, Text.fold k.key = Text.fold key) ↔
      ∃ i ∈ instances, i.metadata.contains key := by
  have huses : usesOf instances (Text.fold key) ≠ [] ↔
      ∃ i ∈ instances, i.metadata.contains key := by
    rw [← List.length_pos_iff, List.length_pos_iff_exists_mem]
    simp only [usesOf, List.mem_filterMap, contains_iff_stored?]
    constructor
    · rintro ⟨p, i, hi, hp⟩
      exact ⟨i, hi, p, hp⟩
    · rintro ⟨i, hi, p, hp⟩
      exact ⟨p, i, hi, hp⟩
  rw [← huses, ← isSome_ofUses, Option.isSome_iff_exists]
  constructor
  · rintro ⟨k, hk, hfold⟩
    exact ⟨k, hfold ▸ mem_keys.mp hk⟩
  · rintro ⟨k, hk⟩
    have hfold : Text.fold k.key = Text.fold key :=
      keyed_tableOf instances _ k ((get?_tableOf instances _).trans hk)
    exact ⟨k, mem_keys.mpr (hfold.symm ▸ hk), hfold⟩

/-- The values of a key, in the order of the instances. -/
theorem map_snd_usesOf (instances : List Instance) (key : String) :
    (usesOf instances (Text.fold key)).map Prod.snd =
      instances.filterMap (·.metadata.get? key) := by
  rw [usesOf, List.map_filterMap]
  simp only [Metadata.get?_eq]

theorem length_usesOf (instances : List Instance) (key : String) :
    (usesOf instances (Text.fold key)).length =
      instances.countP (·.metadata.contains key) := by
  rw [usesOf, List.length_filterMap_eq_countP]
  simp only [Metadata.contains_eq]

/-- What an entry says, part by part. -/
theorem of_mem_keys {now : Timestamp} {name : String}
    (h : k ∈ (ofInstances now name instances).keys) :
    (usesOf instances (Text.fold k.key)).head?.map Prod.fst = some k.key ∧
      k.instanceCount = instances.countP (·.metadata.contains k.key) ∧
      k.values = KeySummary.firstSpellings (instances.filterMap (·.metadata.get? k.key)) := by
  have hk := mem_keys.mp h
  rw [← length_usesOf, ← map_snd_usesOf]
  cases huses : usesOf instances (Text.fold k.key) with
  | nil =>
    rw [huses] at hk
    contradiction
  | cons p uses =>
    rw [huses] at hk
    have hparts := Option.some.inj hk
    have hkey : p.1 = k.key := congrArg KeySummary.key hparts
    exact ⟨congrArg some hkey, congrArg KeySummary.instanceCount hparts.symm,
      congrArg KeySummary.values hparts.symm⟩

/-- The instance that decides how a key is spelled is the first that carries it. -/
theorem exists_first_of_head? {key : String}
    (h : (usesOf instances (Text.fold key)).head?.map Prod.fst = some key) :
    ∃ before i later, instances = before ++ i :: later ∧
      (∀ j ∈ before, ¬ j.metadata.contains key) ∧ key ∈ i.metadata.toList.map Prod.fst := by
  obtain ⟨p, hp, hkey⟩ := Option.map_eq_some_iff.mp h
  rw [usesOf, List.head?_filterMap] at hp
  obtain ⟨before, i, later, hsplit, hi, hbefore⟩ := List.findSome?_eq_some_iff.mp hp
  refine ⟨before, i, later, hsplit, fun j hj hcarries => ?_, ?_⟩
  · obtain ⟨q, hq⟩ := contains_iff_stored?.mp hcarries
    rw [hbefore j hj] at hq
    contradiction
  · have hmem : p ∈ i.metadata.toList := by
      rw [Metadata.mem_toList, i.metadata.fold_of_stored? hi]
      exact hi
    exact hkey ▸ List.mem_map_of_mem hmem

/-- An entry lists a value at least, and no more than there are instances with the key. -/
theorem length_values_of_mem_keys {now : Timestamp} {name : String}
    (h : k ∈ (ofInstances now name instances).keys) :
    1 ≤ k.values.length ∧ k.values.length ≤ k.instanceCount ∧
      k.instanceCount ≤ instances.length := by
  obtain ⟨hkey, hcount, hvalues⟩ := of_mem_keys h
  have hcarried : (usesOf instances (Text.fold k.key)).map Prod.snd ≠ [] := by
    intro hnil
    rw [List.map_eq_nil_iff.mp hnil] at hkey
    contradiction
  rw [map_snd_usesOf] at hcarried
  have hlength : (instances.filterMap (·.metadata.get? k.key)).length = k.instanceCount := by
    rw [← map_snd_usesOf, List.length_map, length_usesOf, hcount]
  have hle := KeySummary.length_firstSpellings_le (instances.filterMap (·.metadata.get? k.key))
  refine ⟨hvalues ▸ KeySummary.length_firstSpellings_pos hcarried, ?_,
    hcount ▸ List.countP_le_length⟩
  rw [hvalues]
  omega

section Order

variable {others : List Instance} {now later : Timestamp} {name other : String}

/-- In whatever order the instances come, the same keys are summarised. -/
theorem map_keys_of_perm (h : others.Perm instances) :
    (ofInstances later other others).keys.map (fun k => Text.fold k.key) =
      (ofInstances now name instances).keys.map (fun k => Text.fold k.key) := by
  have hascending (now : Timestamp) (name : String) (instances : List Instance) :
      ((ofInstances now name instances).keys.map fun k => Text.fold k.key).Pairwise (· < ·) :=
    List.pairwise_map.mpr (keys_ascending now name instances)
  have hnodup (now : Timestamp) (name : String) (instances : List Instance) :
      ((ofInstances now name instances).keys.map fun k => Text.fold k.key).Nodup := by
    refine (hascending now name instances).imp fun {a b} hlt heq => ?_
    rw [heq] at hlt
    exact String.lt_irrefl b hlt
  have hmem : ∀ folded,
      folded ∈ (ofInstances later other others).keys.map (fun k => Text.fold k.key) ↔
        folded ∈ (ofInstances now name instances).keys.map (fun k => Text.fold k.key) := by
    intro folded
    simp only [List.mem_map]
    constructor
    · rintro ⟨k, hk, rfl⟩
      obtain ⟨i, hi, hcarries⟩ := exists_key_iff.mp ⟨k, hk, rfl⟩
      exact exists_key_iff.mpr ⟨i, h.mem_iff.mp hi, hcarries⟩
    · rintro ⟨k, hk, rfl⟩
      obtain ⟨i, hi, hcarries⟩ := exists_key_iff.mp ⟨k, hk, rfl⟩
      exact exists_key_iff.mpr ⟨i, h.mem_iff.mpr hi, hcarries⟩
  refine List.Perm.eq_of_pairwise (fun a b _ _ hab hba => ?_) (hascending later other others)
    (hascending now name instances)
    ((List.perm_ext_iff_of_nodup (hnodup later other others) (hnodup now name instances)).mpr hmem)
  exact absurd (String.lt_trans hab hba) (String.lt_irrefl a)

/-- In whatever order the instances come, a key is counted as often and has the same values, but for
their spelling. -/
theorem entry_of_perm (h : others.Perm instances) {l : KeySummary}
    (hk : k ∈ (ofInstances now name instances).keys)
    (hl : l ∈ (ofInstances later other others).keys) (hfold : Text.fold l.key = Text.fold k.key) :
    l.instanceCount = k.instanceCount ∧
      (l.values.map Text.fold).Perm (k.values.map Text.fold) := by
  obtain ⟨-, hcount, hvalues⟩ := of_mem_keys hk
  obtain ⟨-, hcount', hvalues'⟩ := of_mem_keys hl
  simp only [Metadata.contains_of_fold_eq hfold] at hcount'
  simp only [Metadata.get?_of_fold_eq hfold] at hvalues'
  have hsame := h.filterMap (·.metadata.get? k.key)
  rw [hcount, hcount', hvalues, hvalues']
  refine ⟨h.countP_eq _, (List.perm_ext_iff_of_nodup (KeySummary.nodup_map_firstSpellings _)
    (KeySummary.nodup_map_firstSpellings _)).mpr fun folded => ?_⟩
  rw [KeySummary.mem_map_firstSpellings, KeySummary.mem_map_firstSpellings]
  exact (hsame.map Text.fold).mem_iff

end Order

/-- A summary says what the instances carry, key by key. It counts the instances and has the name
that the first of them gives to the service, or the one that was asked for if there is none. Each
key that some instance carries has one entry, in the order of the folded keys. It is spelled as on
the first instance that carries it; it counts the instances that carry it in whatever letter case;
and it lists their values in the order of the instances, those dropped that have come before in some
letter case. So an entry has one value at least, no more values than instances, and no more
instances than there are. And the instances may come in another order: the folded keys, the counts
and the folded values stay the same. -/
theorem summary_says_what_instances_carry (now : Timestamp) (name : String)
    (instances : List Instance) :
    let s := ofInstances now name instances
    s.instanceCount = instances.length ∧
    s.serviceName = (instances.head?.map (·.serviceName)).getD name ∧
    s.keys.Pairwise (fun k l => Text.fold k.key < Text.fold l.key) ∧
    (∀ key, (∃ k ∈ s.keys, Text.fold k.key = Text.fold key) ↔
      ∃ i ∈ instances, i.metadata.contains key) ∧
    (∀ k ∈ s.keys,
      (∃ before i later, instances = before ++ i :: later ∧
        (∀ j ∈ before, ¬ j.metadata.contains k.key) ∧ k.key ∈ i.metadata.toList.map Prod.fst) ∧
      k.instanceCount = instances.countP (·.metadata.contains k.key) ∧
      k.values = (instances.filterMap (·.metadata.get? k.key)).eraseDupsBy Text.sameFold ∧
      1 ≤ k.values.length ∧ k.values.length ≤ k.instanceCount ∧
      k.instanceCount ≤ s.instanceCount) ∧
    ∀ later other others, others.Perm instances →
      let t := ofInstances later other others
      t.keys.map (fun k => Text.fold k.key) = s.keys.map (fun k => Text.fold k.key) ∧
      ∀ k ∈ s.keys, ∀ l ∈ t.keys, Text.fold l.key = Text.fold k.key →
        l.instanceCount = k.instanceCount ∧
        (l.values.map Text.fold).Perm (k.values.map Text.fold) := by
  intro s
  refine ⟨rfl, rfl, keys_ascending now name instances, fun key => exists_key_iff,
    fun k hk => ?_, fun later other others hperm => ?_⟩
  · obtain ⟨hkey, hcount, hvalues⟩ := of_mem_keys hk
    exact ⟨exists_first_of_head? hkey, hcount, hvalues, length_values_of_mem_keys hk⟩
  · exact ⟨map_keys_of_perm hperm, fun k hk l hl hfold => entry_of_perm hperm hk hl hfold⟩

end MetadataSummary

end ServiceHealth
