import ServiceHealth.Text.Utf8
import ServiceHealth.Yaml.Node

/-!
# Typed values from YAML

A decoder takes a node of a document and returns a typed value or nothing. It also takes the root,
since aliases are resolved when they are read.

A scalar has no type of its own: what it may stand for depends on its text, on how it is written
and on its tag. A plain scalar is read as a number or a truth value whatever its tag says; a
literal block only if its tag says so; others are strings. Where a collection is expected, the
empty plain scalar stands for the empty one.
-/
namespace ServiceHealth.Yaml

/-- Reads a typed value from a node of the document with a given root. -/
abbrev Decoder (α : Type) := Node → Node → Option α

/-- The scalar is to be read by the rules for a tag. -/
def isTyped (name : String) (tag : Option Tag) : Style → Bool
  | .plain => true
  | .literal => tag = some (.common name)
  | _ => false

/-- The digits of a number in a base, with an optional plus sign. -/
def numberIn? (base : Nat) (digits : List Char) : Option Nat := do
  guard !digits.isEmpty
  digits.foldlM (fun n c => do
    let d ← Text.hexValue? c
    if d < base then some (n * base + d) else none) 0

/-- A whole number that is not negative, in base ten or with `0x`, `0o` or `0b` in front. More
than one digit may not begin with zero. -/
def number? (s : List Char) : Option Nat :=
  let digits := match s with
    | '+' :: rest => rest
    | _ => s
  match digits with
  | '0' :: 'x' :: rest => numberIn? 16 rest
  | '0' :: 'o' :: rest => numberIn? 8 rest
  | '0' :: 'b' :: rest => numberIn? 2 rest
  | '0' :: _ :: _ => none
  | _ => numberIn? 10 digits

/-- The spellings of nothing. -/
def nullNames : List String := ["null", "Null", "NULL", "~"]

namespace Decoder

/-- The text of any scalar. -/
def text : Decoder String := fun root v => do
  match ← root.resolve? v with
  | .scalar _ _ _ s => some s
  | _ => none

def bool : Decoder Bool := fun root v => do
  match ← root.resolve? v with
  | .scalar _ tag style s =>
      if !isTyped "bool" tag style then none
      else if ["true", "True", "TRUE"].contains s then some true
      else if ["false", "False", "FALSE"].contains s then some false
      else none
  | _ => none

/-- A whole number from zero to a limit. -/
def natural (limit : Nat) : Decoder Nat := fun root v => do
  match ← root.resolve? v with
  | .scalar _ tag style s =>
      guard (isTyped "int" tag style)
      let n ← number? s.toList
      if n ≤ limit then some n else none
  | _ => none

def uint32 : Decoder UInt32 := fun root v => (natural 0xFFFFFFFF root v).map Nat.toUInt32

def uint64 : Decoder UInt64 := fun root v => (natural 0xFFFFFFFFFFFFFFFF root v).map Nat.toUInt64

def count : Decoder Nat := natural 0xFFFFFFFFFFFFFFFF

/-- A value or nothing. A plain scalar may say that there is none; tagged as `null` it has to. -/
def nullable {α : Type} (d : Decoder α) : Decoder (Option α) := fun root v => do
  match ← root.resolve? v with
  | .scalar _ tag .plain s =>
      if tag = some (.common "null") then
        if nullNames.contains s then some none else none
      else if tag.isNone && (s = "" || nullNames.contains s) then some none
      else (d root v).map some
  | _ => (d root v).map some

def list {α : Type} (d : Decoder α) : Decoder (List α) := fun root v => do
  match ← root.resolve? v with
  | .sequence _ items => items.mapM (d root)
  | .scalar _ _ .plain "" => some []
  | _ => none

end Decoder

/-- The values of a record under their names. -/
abbrev Members := List (String × Node)

namespace Members

/-- Keeps the entries with known names, each of which may occur once. Keys have to be scalars. -/
def collect? (known : List String) (root : Node) : Members → List (Node × Node) → Option Members
  | found, [] => some found
  | found, (k, v) :: rest => do
      let name ← Decoder.text root k
      if known.contains name then
        if (found.lookup name).isSome then none
        else collect? known root ((name, v) :: found) rest
      else collect? known root found rest

/-- The members of a mapping that have known names. -/
def ofNode? (known : List String) : Decoder Members := fun root v => do
  match ← root.resolve? v with
  | .mapping _ entries => collect? known root [] entries
  | .scalar _ _ .plain "" => some []
  | _ => none

/-- A value by its name, or a default where there is none. -/
def value? {α : Type} (members : Members) (root : Node) (name : String) (d : Decoder α) (a : α) :
    Option α :=
  match members.lookup name with
  | some v => d root v
  | none => some a

end Members

end ServiceHealth.Yaml
