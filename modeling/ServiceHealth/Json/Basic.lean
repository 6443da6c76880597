/-!
# JSON values

Texts are read leniently into a tree that keeps everything a typed reader may ask about, in the
order of the text: members with equal names side by side, numbers beyond the range of 64-bit
words, strings that no Unicode text corresponds to. A text that breaks the grammar becomes a tree
that ends in `broken` at the place of the break. So a typed reader meets faults of grammar and
faults of content in the order in which they stand in the text.
-/
namespace ServiceHealth

/-- A number: whole ones as far as 64 bits hold them, others as floating-point numbers. -/
inductive Number where
  | natural (n : Nat)
  | negative (n : Nat)
  | real (x : Float)
  deriving Inhabited

/-- A value of a JSON text, with members in the order of the text. A number beyond the
floating-point range is missing, and so is a string or a name that stands for no Unicode text; where
the text stops being JSON the value is broken. -/
inductive Json where
  | null
  | bool (b : Bool)
  | number (n : Option Number)
  | text (s : Option String)
  | array (items : List Json)
  | object (members : List (Option String × Json))
  | broken
  deriving Inhabited

namespace Json

def ofText (s : String) : Json := .text (some s)

def ofNat (n : Nat) : Json := .number (some (.natural n))

def ofMembers (members : List (String × Json)) : Json :=
  .object (members.map fun m => (some m.1, m.2))

/-- The value, or `null` for none. -/
def ofOption {α : Type} (encode : α → Json) : Option α → Json
  | some a => encode a
  | none => .null

mutual

/-- No break anywhere inside. -/
def isWhole : Json → Bool
  | .array items => areWhole items
  | .object members => areMembersWhole members
  | .broken => false
  | _ => true

def areWhole : List Json → Bool
  | [] => true
  | v :: rest => v.isWhole && areWhole rest

def areMembersWhole : List (Option String × Json) → Bool
  | [] => true
  | (_, v) :: rest => v.isWhole && areMembersWhole rest

end

end Json

end ServiceHealth
