import Mathlib.Data.List.Nodup
import ServiceHealth.Proofs.Monitor.Basic

/-!
# Ways to look up services

The names of all services are collected from the active records, the instances of a service are
picked by comparing names, and reports carry a name of their own. All three agree on which instances
belong together: names are equal up to letter case, and a report is called as its record is.
-/
namespace ServiceHealth

/-- What stands in ascending order stands there once. -/
theorem nodup_of_ascending {α : Type} {key : α → String} {l : List α}
    (h : l.Pairwise fun a b => key a < key b) : l.Nodup := by
  refine h.imp fun {a b} hlt heq => ?_
  rw [heq] at hlt
  exact String.lt_irrefl (key b) hlt

namespace Catalog

theorem get?_addName (names : Table String String) (name folded : String) :
    (addName names name).get? folded =
      (names.get? folded).or (if Text.fold name = folded then some name else none) := by
  have hknown : names.contains (Text.fold name) = (names.get? (Text.fold name)).isSome := rfl
  unfold addName
  by_cases hfolded : Text.fold name = folded
  · subst hfolded
    cases h : names.get? (Text.fold name) <;> simp [hknown, h]
  · cases h : names.get? (Text.fold name) <;>
      simp [hknown, h, hfolded, Table.get?_insert, Ne.symm hfolded]

/-- Of names that fold to the same text the first one stays. -/
theorem get?_foldl_addName (names : List String) (table : Table String String) (folded : String) :
    (names.foldl addName table).get? folded =
      (table.get? folded).or (names.find? fun name => Text.fold name = folded) := by
  induction names generalizing table with
  | nil => simp
  | cons name names ih =>
    rw [List.foldl_cons, ih, get?_addName, Option.or_assoc, List.find?_cons]
    by_cases hfolded : Text.fold name = folded
    · simp [hfolded]
    · simp [hfolded]

/-- The names of all services with active instances, under their folded forms. -/
def nameTable (c : Catalog) : Table String String :=
  (c.active.map (·.serviceName)).foldl addName .empty

variable (c : Catalog)

/-- A service is called as its first active instance calls it. -/
theorem get?_nameTable (folded : String) : c.nameTable.get? folded =
    (c.active.find? fun i => Text.fold i.serviceName = folded).map (·.serviceName) := by
  rw [nameTable, get?_foldl_addName, Table.get?_empty, Option.none_or, List.find?_map]
  rfl

theorem keyed_nameTable (folded : String) :
    ∀ name ∈ c.nameTable.get? folded, Text.fold name = folded := by
  intro name hname
  rw [get?_nameTable, Option.mem_def, Option.map_eq_some_iff] at hname
  obtain ⟨i, hi, rfl⟩ := hname
  simpa using List.find?_some hi

theorem serviceNames_ascending :
    c.serviceNames.Pairwise fun name other => Text.fold name < Text.fold other :=
  (Table.pairwise_values c.keyed_nameTable).imp compareOfLessAndEq_eq_lt.mp

variable {c} {name : String} {i : Instance}

theorem matchesService_iff :
    i.matchesService name ↔ Text.fold i.serviceName = Text.fold name := decide_eq_true_iff

/-- Every active instance belongs to one of the services that are listed. -/
theorem exists_serviceName (h : i ∈ c.active) : ∃ name ∈ c.serviceNames, i.matchesService name := by
  have hfound :
      (c.active.find? fun j => Text.fold j.serviceName = Text.fold i.serviceName).isSome :=
    List.find?_isSome.mpr ⟨i, h, by simp⟩
  obtain ⟨first, hfirst⟩ := Option.isSome_iff_exists.mp hfound
  have hlisted := c.get?_nameTable (Text.fold i.serviceName)
  rw [hfirst, Option.map_some] at hlisted
  have hsame := c.keyed_nameTable _ _ hlisted
  refine ⟨first.serviceName, ?_, matchesService_iff.mpr hsame.symm⟩
  exact (Table.mem_values_iff c.keyed_nameTable).mpr (hsame ▸ hlisted)

/-- Names that are listed apart differ in more than case. -/
theorem eq_of_matchesService {other : String} (hname : name ∈ c.serviceNames)
    (hother : other ∈ c.serviceNames) (h : i.matchesService name) (h' : i.matchesService other) :
    name = other := by
  have hfold : Text.fold name = Text.fold other :=
    (matchesService_iff.mp h).symm.trans (matchesService_iff.mp h')
  have hlisted := (Table.mem_values_iff c.keyed_nameTable).mp hname
  have hsecond := (Table.mem_values_iff c.keyed_nameTable).mp hother
  rw [hfold, hsecond] at hlisted
  exact (Option.some.inj hlisted).symm

end Catalog

namespace Fleet

variable {f : Fleet}

end Fleet

namespace Monitor

end Monitor

end ServiceHealth
