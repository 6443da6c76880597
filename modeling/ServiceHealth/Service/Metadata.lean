import ServiceHealth.Error
import ServiceHealth.Table
import ServiceHealth.Text.Fold

/-!
# Metadata

Metadata of an instance is a map whose keys are equal when their folded forms are. The last write
decides both the value and the spelling of the key. It converts to a map with exact keys, and back
as long as no two keys fold to the same text.
-/
namespace ServiceHealth

/-- A value with the spelling of its key. -/
structure Metadata.Entry where
  key : String
  value : String
  deriving DecidableEq, Repr

/-- A map on folded keys. Every entry is held under the folded form of its key. -/
structure Metadata where
  table : Table String Metadata.Entry
  folded : ∀ e ∈ table.entries, e.1 = Text.fold e.2.key

namespace Metadata

def empty : Metadata := ⟨.empty, fun _ h => by simp [Table.empty] at h⟩

instance : Inhabited Metadata := ⟨empty⟩

instance : DecidableEq Metadata := fun a b =>
  decidable_of_iff (a.table = b.table)
    ⟨fun h => by cases a; cases b; cases h; rfl, fun h => h ▸ rfl⟩

def get? (m : Metadata) (key : String) : Option String :=
  (m.table.get? (Text.fold key)).map Entry.value

def contains (m : Metadata) (key : String) : Bool := m.table.contains (Text.fold key)

def insert (m : Metadata) (key value : String) : Metadata where
  table := m.table.insert (Text.fold key) ⟨key, value⟩
  folded e h := by
    rcases Table.mem_insertEntry h with rfl | h
    · rfl
    · exact m.folded e h

/-- Writes a value and returns the one that it replaces. -/
def exchange (m : Metadata) (key value : String) : Option String × Metadata :=
  ((m.table.exchange (Text.fold key) ⟨key, value⟩).1.map Entry.value, m.insert key value)

/-- Writes pairs one after the other. -/
def merge (m : Metadata) (pairs : List (String × String)) : Metadata :=
  pairs.foldl (fun m p => m.insert p.1 p.2) m

/-- The metadata that pairs written one after the other make up. -/
def ofList (pairs : List (String × String)) : Metadata := empty.merge pairs

/-- Keys as they are spelled and values, in the order of the folded keys. -/
def toList (m : Metadata) : List (String × String) :=
  m.table.values.map fun e => (e.key, e.value)

def size (m : Metadata) : Nat := m.table.size

def isEmpty (m : Metadata) : Bool := m.table.isEmpty

/-- The map with exact keys. -/
def toMap (m : Metadata) : Table String String := .ofList m.toList

/-- Writes pairs one after the other, but none over an earlier one. -/
def insertNew (m : Metadata) : List (String × String) → Except Error Metadata
  | [] => .ok m
  | (key, value) :: rest =>
      match m.table.get? (Text.fold key) with
      | some e => .error (.invalid (.keysDifferInCase e.key key))
      | none => (m.insert key value).insertNew rest

/-- The metadata of a map with exact keys, unless two of them differ only in case. -/
def ofMap (map : Table String String) : Except Error Metadata := empty.insertNew map.entries

end Metadata

end ServiceHealth
