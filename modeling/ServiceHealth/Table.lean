/-!
# Tables in key order

A finite map kept as the list of its entries in strictly ascending key order. The order belongs to
the type, so a listing needs no sorting and two tables with the same entries are equal. What each
operation does to `get?` is stated in `Table.Lemmas`.
-/
namespace ServiceHealth

universe u v w

/-- A finite map from `κ` to `α`, ordered by `compare`. -/
structure Table (κ : Type u) (α : Type v) [Ord κ] where
  entries : List (κ × α)
  sorted : entries.Pairwise fun a b => compare a.1 b.1 = .lt

namespace Table

variable {κ : Type u} {α : Type v} {β : Type w} [Ord κ]

def empty : Table κ α := ⟨[], .nil⟩

instance : Inhabited (Table κ α) := ⟨empty⟩

instance [DecidableEq κ] [DecidableEq α] : DecidableEq (Table κ α) := fun s t =>
  decidable_of_iff (s.entries = t.entries)
    ⟨fun h => by cases s; cases t; cases h; rfl, fun h => h ▸ rfl⟩

def get? (t : Table κ α) (k : κ) : Option α :=
  (t.entries.find? fun e => compare k e.1 == .eq).map Prod.snd

def contains (t : Table κ α) (k : κ) : Bool := (t.get? k).isSome

def size (t : Table κ α) : Nat := t.entries.length

def isEmpty (t : Table κ α) : Bool := t.entries.isEmpty

/-- The keys, in ascending order. -/
def keys (t : Table κ α) : List κ := t.entries.map Prod.fst

/-- The values, in the order of their keys. -/
def values (t : Table κ α) : List α := t.entries.map Prod.snd

/-- Puts an entry into an ordered list, in place of the one with an equal key. -/
def insertEntry (k : κ) (a : α) : List (κ × α) → List (κ × α)
  | [] => [(k, a)]
  | e :: rest =>
      match compare k e.1 with
      | .lt => (k, a) :: e :: rest
      | .eq => (k, a) :: rest
      | .gt => e :: insertEntry k a rest

theorem mem_insertEntry {k : κ} {a : α} {l : List (κ × α)} {e : κ × α}
    (h : e ∈ insertEntry k a l) : e = (k, a) ∨ e ∈ l := by
  induction l with
  | nil => simp_all [insertEntry]
  | cons f rest ih =>
      simp only [insertEntry] at h
      split at h
      · simpa using h
      · simp only [List.mem_cons] at h ⊢
        exact h.imp id Or.inr
      · simp only [List.mem_cons] at h ⊢
        rcases h with h | h
        · exact .inr (.inl h)
        · exact (ih h).imp id Or.inr

theorem pairwise_insertEntry [Std.TransOrd κ] [Std.LawfulEqOrd κ] (k : κ) (a : α)
    {l : List (κ × α)} (h : l.Pairwise fun a b => compare a.1 b.1 = .lt) :
    (insertEntry k a l).Pairwise fun a b => compare a.1 b.1 = .lt := by
  induction l with
  | nil => simp [insertEntry]
  | cons e rest ih =>
      obtain ⟨he, hr⟩ := List.pairwise_cons.1 h
      simp only [insertEntry]
      split
      · rename_i hlt
        refine List.pairwise_cons.2 ⟨fun f hf => ?_, h⟩
        rcases List.mem_cons.1 hf with rfl | hf
        · exact hlt
        · exact Std.TransCmp.lt_trans hlt (he f hf)
      · rename_i heq
        have hk : k = e.1 := Std.LawfulEqCmp.eq_of_compare heq
        exact List.pairwise_cons.2 ⟨fun f hf => hk ▸ he f hf, hr⟩
      · rename_i hgt
        refine List.pairwise_cons.2 ⟨fun f hf => ?_, ih hr⟩
        rcases mem_insertEntry hf with rfl | hf
        · exact Std.OrientedCmp.lt_of_gt hgt
        · exact he f hf

/-- Puts a value under a key, replacing the one held there. -/
def insert [Std.TransOrd κ] [Std.LawfulEqOrd κ] (t : Table κ α) (k : κ) (a : α) : Table κ α :=
  ⟨insertEntry k a t.entries, pairwise_insertEntry k a t.sorted⟩

/-- The value in whose place `insertEntry` puts the new one. -/
def replaced (k : κ) : List (κ × α) → Option α
  | [] => none
  | e :: rest =>
      match compare k e.1 with
      | .lt => none
      | .eq => some e.2
      | .gt => replaced k rest

/-- Puts a value under a key and returns the one that was held there. -/
def exchange [Std.TransOrd κ] [Std.LawfulEqOrd κ] (t : Table κ α) (k : κ) (a : α) :
    Option α × Table κ α :=
  (replaced k t.entries, t.insert k a)

def filter (t : Table κ α) (p : κ → α → Bool) : Table κ α :=
  ⟨t.entries.filter fun e => p e.1 e.2, t.sorted.filter _⟩

def erase (t : Table κ α) (k : κ) : Table κ α :=
  t.filter fun key _ => compare k key != .eq

def map (t : Table κ α) (f : α → β) : Table κ β :=
  ⟨t.entries.map fun e => (e.1, f e.2), List.pairwise_map.2 t.sorted⟩

/-- Replaces the value under a key by its image; other keys and a missing key are untouched. -/
def modify (t : Table κ α) (k : κ) (f : α → α) : Table κ α :=
  ⟨t.entries.map fun e => (e.1, if compare k e.1 == .eq then f e.2 else e.2),
    List.pairwise_map.2 t.sorted⟩

/-- Puts pairs in one after the other, so that the last of several with equal keys stays. -/
def ofList [Std.TransOrd κ] [Std.LawfulEqOrd κ] (pairs : List (κ × α)) : Table κ α :=
  pairs.foldl (fun t p => t.insert p.1 p.2) empty

end Table

end ServiceHealth
