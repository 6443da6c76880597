/-!
# Texts

A character is blank when it has the Unicode property `White_Space`: twenty-five code points
in ten ranges, among them the no-break space and the ideographic space, but not the zero-width
space. `trim` drops blanks at both ends of a text and keeps those inside.

Some formats know only ASCII letters and digits. Other characters are left alone by their rules.
-/
namespace ServiceHealth.Text

/-- The first and last code point of each range of blanks. -/
def blankRanges : List (Nat × Nat) :=
  [(0x09, 0x0D), (0x20, 0x20), (0x85, 0x85), (0xA0, 0xA0), (0x1680, 0x1680), (0x2000, 0x200A),
    (0x2028, 0x2029), (0x202F, 0x202F), (0x205F, 0x205F), (0x3000, 0x3000)]

def inRanges (ranges : List (Nat × Nat)) (n : Nat) : Bool :=
  ranges.any fun r => r.1 ≤ n && n ≤ r.2

def isBlank (c : Char) : Bool :=
  inRanges blankRanges c.toNat

/-- Drops blanks at both ends. -/
def trimChars (cs : List Char) : List Char :=
  ((cs.dropWhile isBlank).reverse.dropWhile isBlank).reverse

def trim (s : String) : String :=
  String.ofList (trimChars s.toList)

theorem toList_trim (s : String) : (trim s).toList = trimChars s.toList := by
  simp [trim]

/-- Nothing but blanks, or empty. -/
def isAllBlank (s : String) : Bool :=
  s.toList.all isBlank

def lowerAscii (s : String) : String :=
  String.ofList (s.toList.map Char.toLower)

/-- The value of a text of decimal digits; the empty text has none. -/
def digitsValue? (cs : List Char) : Option Nat :=
  if cs ≠ [] ∧ cs.all Char.isDigit then
    some (cs.foldl (fun n c => n * 10 + (c.toNat - '0'.toNat)) 0)
  else none

/-- A decimal number with an optional plus sign, up to a limit. Leading zeros are allowed. -/
def number? (limit : Nat) (s : String) : Option Nat := do
  let digits := match s.toList with
    | '+' :: rest => rest
    | cs => cs
  let n ← digitsValue? digits
  if n ≤ limit then some n else none

/-- What holds of the characters of a text is decided by going through the text. -/
-- Where all characters that there are can be gone through, that would be tried first.
instance (priority := 2000) decidableForallMem {holds : Char → Prop} [DecidablePred holds]
    (cs : List Char) : Decidable (∀ c ∈ cs, holds c) :=
  List.decidableBAll holds cs

end ServiceHealth.Text
