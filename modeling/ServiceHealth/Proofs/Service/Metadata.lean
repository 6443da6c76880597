import Mathlib.Data.List.Dedup
import Mathlib.Data.List.Perm.Basic
import ServiceHealth.Service.Metadata
import ServiceHealth.Table.Lemmas

/-!
# Metadata holds what was written last

A key is looked up by its folded form, entries are listed with the spelling of their keys, and both
come from one table. Under a folded key this table holds the pair that was written last among those
whose key folds to it, so that the pairs written so far say all about the metadata.
-/
namespace ServiceHealth.Metadata

/-- The key as it is spelled, and the value, under a folded key. -/
def stored? (m : Metadata) (folded : String) : Option (String × String) :=
  (m.table.get? folded).map fun e => (e.key, e.value)

/-- The last of some pairs whose key folds to the given text. -/
def lastUnder (folded : String) (pairs : List (String × String)) : Option (String × String) :=
  (pairs.filter fun p => Text.fold p.1 = folded).getLast?

theorem lastUnder_append (folded : String) (first second : List (String × String)) :
    lastUnder folded (first ++ second) = (lastUnder folded second).or (lastUnder folded first) := by
  rw [lastUnder, List.filter_append, List.getLast?_append]
  rfl

theorem lastUnder_singleton (folded : String) (p : String × String) :
    lastUnder folded [p] = if Text.fold p.1 = folded then some p else none := by
  by_cases h : Text.fold p.1 = folded <;> simp [lastUnder, h]

theorem lastUnder_eq_none_iff {folded : String} {pairs : List (String × String)} :
    lastUnder folded pairs = none ↔ ∀ p ∈ pairs, Text.fold p.1 ≠ folded := by
  simp [lastUnder]

theorem mem_of_lastUnder {folded : String} {pairs : List (String × String)} {p : String × String}
    (h : lastUnder folded pairs = some p) : p ∈ pairs ∧ Text.fold p.1 = folded := by
  simpa using List.mem_of_getLast? h

theorem exists_lastUnder {pairs : List (String × String)} {p : String × String} (h : p ∈ pairs) :
    ∃ q, lastUnder (Text.fold p.1) pairs = some q :=
  Option.ne_none_iff_exists'.mp fun hnone => lastUnder_eq_none_iff.mp hnone p h rfl

variable (m : Metadata)

theorem get?_eq (key : String) : m.get? key = (m.stored? (Text.fold key)).map Prod.snd := by
  rw [get?, stored?, Option.map_map]
  rfl

theorem contains_eq (key : String) : m.contains key = (m.stored? (Text.fold key)).isSome := by
  rw [contains, stored?, Option.isSome_map]
  rfl

theorem exchange_eq (key value : String) :
    m.exchange key value = (m.get? key, m.insert key value) := by
  rw [exchange, Table.exchange_eq, get?]

/-- Metadata with the same entries is the same. -/
theorem ext_stored? {m n : Metadata} (h : ∀ folded, m.stored? folded = n.stored? folded) :
    m = n := by
  have hentry : Function.Injective fun e : Entry => (e.key, e.value) := by
    rintro ⟨key, value⟩ ⟨key', value'⟩ heq
    simpa using heq
  have htable : m.table = n.table :=
    Table.ext_get? fun folded => Option.map_injective hentry (h folded)
  cases m
  cases n
  simp_all

@[simp] theorem stored?_empty (folded : String) : empty.stored? folded = none := rfl

theorem stored?_insert (key value folded : String) : (m.insert key value).stored? folded =
    if Text.fold key = folded then some (key, value) else m.stored? folded := by
  simp only [stored?, insert, Table.get?_insert, eq_comm (a := folded)]
  split <;> rfl

/-- Pairs that are written cover the entries under their keys, the last of them for each key. -/
theorem stored?_merge (pairs : List (String × String)) (folded : String) :
    (m.merge pairs).stored? folded = (lastUnder folded pairs).or (m.stored? folded) := by
  induction pairs generalizing m with
  | nil => rfl
  | cons p pairs ih =>
    have hmerge : m.merge (p :: pairs) = (m.insert p.1 p.2).merge pairs := rfl
    rw [hmerge, ih, stored?_insert, ← List.singleton_append, lastUnder_append, lastUnder_singleton,
      Option.or_assoc]
    split <;> rfl

theorem stored?_ofList (pairs : List (String × String)) (folded : String) :
    (ofList pairs).stored? folded = lastUnder folded pairs := by
  rw [ofList, stored?_merge, stored?_empty, Option.or_none]

theorem merge_ofList (first second : List (String × String)) :
    (ofList first).merge second = ofList (first ++ second) :=
  List.foldl_append.symm

theorem fold_of_stored? {folded : String} {p : String × String} (h : m.stored? folded = some p) :
    Text.fold p.1 = folded := by
  obtain ⟨e, he, rfl⟩ := Option.map_eq_some_iff.mp h
  exact (m.folded (folded, e) (Table.get?_eq_some_iff_mem.mp he)).symm

theorem mem_toList {p : String × String} : p ∈ m.toList ↔ m.stored? (Text.fold p.1) = some p := by
  simp only [toList, Table.values, List.mem_map, stored?, Option.map_eq_some_iff,
    Table.get?_eq_some_iff_mem]
  constructor
  · rintro ⟨_, ⟨e, he, rfl⟩, rfl⟩
    have hfolded := m.folded e he
    exact ⟨e.2, hfolded ▸ he, rfl⟩
  · rintro ⟨e, he, rfl⟩
    exact ⟨e, ⟨_, he, rfl⟩, rfl⟩

/-- The entries say all about the metadata. -/
theorem lastUnder_toList (folded : String) : lastUnder folded m.toList = m.stored? folded := by
  cases hstored : m.stored? folded with
  | none =>
    refine lastUnder_eq_none_iff.mpr fun p hp hfold => ?_
    rw [← hfold, m.mem_toList.mp hp] at hstored
    contradiction
  | some p =>
    have hfold := m.fold_of_stored? hstored
    obtain ⟨q, hq⟩ := exists_lastUnder (m.mem_toList.mpr (hfold ▸ hstored))
    rw [hfold] at hq
    obtain ⟨hmem, hsame⟩ := mem_of_lastUnder hq
    rw [hq, ← m.mem_toList.mp hmem, hsame, hstored]

theorem toList_ascending :
    m.toList.Pairwise fun p q => Text.fold p.1 < Text.fold q.1 := by
  rw [toList, Table.values, List.map_map, List.pairwise_map]
  refine m.table.sorted.imp_of_mem fun {a b} ha hb hlt => ?_
  rw [m.folded a ha, m.folded b hb] at hlt
  exact compareOfLessAndEq_eq_lt.mp hlt

/-- No two of the keys fold to the same text. -/
def Apart (pairs : List (String × String)) : Prop := (pairs.map fun p => Text.fold p.1).Nodup

theorem apart_toList : Apart m.toList := by
  refine List.pairwise_map.mpr (m.toList_ascending.imp fun {p q} hlt heq => ?_)
  rw [heq] at hlt
  exact String.lt_irrefl _ hlt

/-- There is an entry for each folded key among the pairs, and one only. -/
theorem folded_ofList (pairs : List (String × String)) :
    ((ofList pairs).toList.map fun p => Text.fold p.1).Perm
      (pairs.map fun p => Text.fold p.1).dedup := by
  refine (List.perm_ext_iff_of_nodup (apart_toList _) (List.nodup_dedup _)).mpr fun folded => ?_
  simp only [List.mem_dedup, List.mem_map, mem_toList, stored?_ofList]
  constructor
  · rintro ⟨p, hp, rfl⟩
    exact ⟨p, (mem_of_lastUnder hp).1, rfl⟩
  · rintro ⟨p, hp, rfl⟩
    obtain ⟨q, hq⟩ := exists_lastUnder hp
    have hfold := (mem_of_lastUnder hq).2
    exact ⟨q, hfold.symm ▸ hq, hfold⟩

/-- A way to write metadata. Collecting starts anew from pairs. -/
inductive Write where
  | insert (key value : String)
  | merge (pairs : List (String × String))
  | collect (pairs : List (String × String))

def write (m : Metadata) : Write → Metadata
  | .insert key value => m.insert key value
  | .merge pairs => m.merge pairs
  | .collect pairs => ofList pairs

def ofWrites (writes : List Write) : Metadata := writes.foldl write empty

/-- The pairs that have been written after one more write, in their order. -/
def Write.onto (pairs : List (String × String)) : Write → List (String × String)
  | .insert key value => pairs ++ [(key, value)]
  | .merge more => pairs ++ more
  | .collect anew => anew

/-- The pairs that writes have written since the metadata last started anew, in their order. -/
def written (writes : List Write) : List (String × String) := writes.foldl Write.onto []

theorem write_ofList (pairs : List (String × String)) (w : Write) :
    (ofList pairs).write w = ofList (w.onto pairs) := by
  cases w with
  | insert key value => exact merge_ofList pairs [(key, value)]
  | merge more => exact merge_ofList pairs more
  | collect anew => rfl

/-- However it was written, metadata is made up of the pairs that were. -/
theorem ofWrites_eq (writes : List Write) : ofWrites writes = ofList (written writes) := by
  have hfrom : ∀ pairs, writes.foldl write (ofList pairs) =
      ofList (writes.foldl Write.onto pairs) := by
    induction writes with
    | nil => exact fun _ => rfl
    | cons w rest ih => exact fun pairs => by rw [List.foldl_cons, write_ofList, ih]; rfl
  exact hfrom []

/-- The last write of a key, in whatever letter case, decides on value and spelling. After every
sequence of writes a look-up gives the value of the last pair that was written under the folded key,
and nothing if none was; one more insertion is answered with what the look-up gave just before. The
entries are listed in the order of their folded keys, one for each folded key that was written, and
each is the last pair that was written under it. A merge leaves the entries whose keys it does not
name, and merging the same pairs again changes nothing. -/
theorem last_write_decides (writes : List Write) :
    let m := ofWrites writes
    let pairs := written writes
    (∀ key, m.get? key = (lastUnder (Text.fold key) pairs).map Prod.snd ∧
      m.contains key = (m.get? key).isSome) ∧
    (∀ key value, m.exchange key value = (m.get? key, ofWrites (writes ++ [.insert key value]))) ∧
    m.toList.Pairwise (fun p q => Text.fold p.1 < Text.fold q.1) ∧
    (m.toList.map fun p => Text.fold p.1).Perm (pairs.map fun p => Text.fold p.1).dedup ∧
    (∀ p, p ∈ m.toList ↔ lastUnder (Text.fold p.1) pairs = some p) ∧
    m.size = m.toList.length ∧
    ∀ more, (m.merge more).merge more = m.merge more ∧
      ∀ p : String × String, (∀ q ∈ more, Text.fold q.1 ≠ Text.fold p.1) →
        (p ∈ (m.merge more).toList ↔ p ∈ m.toList) := by
  intro m pairs
  have hm : m = ofList pairs := ofWrites_eq writes
  refine ⟨fun key => ⟨?_, ?_⟩, fun key value => ?_, m.toList_ascending, ?_, fun p => ?_, ?_,
    fun more => ⟨ext_stored? fun folded => ?_, fun p hp => ?_⟩⟩
  · rw [get?_eq, hm, stored?_ofList]
  · rw [contains_eq, get?_eq, Option.isSome_map]
  · rw [exchange_eq, ofWrites, List.foldl_append]
    rfl
  · rw [hm]
    exact folded_ofList pairs
  · rw [mem_toList, hm, stored?_ofList]
  · simp [size, toList, Table.size, Table.values]
  · rw [stored?_merge, stored?_merge, ← Option.or_assoc, Option.or_self]
  · rw [mem_toList, mem_toList, stored?_merge, lastUnder_eq_none_iff.mpr hp, Option.none_or]

end ServiceHealth.Metadata
