import ServiceHealth.Text.Basic
import ServiceHealth.Text.MarkTable
import ServiceHealth.Text.PrintTable

/-!
# Marks

Accents, vowel signs and other marks join the character before them. Some take a width of their
own, the others merge with that character.
-/
namespace ServiceHealth.Text

/-- A mark with a width of its own. -/
def isSpacingMark (c : Char) : Bool := inRanges spacingMarkRanges c.toNat

/-- A mark that merges with the character before it. Everything that merges is a mark, but for the
non-joiner and the marks that have a width. -/
def isNonspacingMark (c : Char) : Bool :=
  (inRanges graphemeExtendRanges c.toNat || inRanges newestMarkRanges c.toNat) &&
    !isSpacingMark c && c != '\u200c'

def isMark (c : Char) : Bool := isSpacingMark c || isNonspacingMark c

/-- The combining class: zero for what stands on its own, as everything before the marks does. -/
def markOrder (c : Char) : Nat :=
  if c.toNat < 0x300 then 0
  else match markRanges.find? fun r => r.first ≤ c.toNat && c.toNat ≤ r.last with
    | some r => r.order
    | none => 0

/-- A mark that takes the vowel from a letter of an Indic script. -/
def isVirama (c : Char) : Bool := markOrder c = 9

end ServiceHealth.Text
