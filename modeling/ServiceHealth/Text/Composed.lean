import ServiceHealth.Text.CompositionTable
import ServiceHealth.Text.Mark

/-!
# Composed form

A letter with accents can be written as one character or as several, and the accents in several
orders. The composed form is one of these spellings: the text is taken apart, marks on the same
character are put in the order of their classes, marks of one class staying in the order in which
they stand, and then each character is composed with the marks after it as far as Unicode knows a
character for them.
-/
namespace ServiceHealth.Text

/-- The composed characters with their parts. -/
def compositions : List (Nat × List Char) := entries compositionRows

/-- The parts of a Hangul syllable, by its place among the syllables. -/
def syllableParts (place : Nat) : List Char :=
  let parts := [Char.ofNat (0x1100 + place / 588), Char.ofNat (0x1161 + place % 588 / 28)]
  if place % 28 = 0 then parts else parts ++ [Char.ofNat (0x11A7 + place % 28)]

def isSyllable (c : Char) : Bool := 0xAC00 ≤ c.toNat && c.toNat < 0xAC00 + 11172

/-- The parts of a character, or the character itself. -/
def parts (c : Char) : List Char :=
  if c.toNat < 0x80 then [c]
  else if isSyllable c then syllableParts (c.toNat - 0xAC00)
  else (compositions.lookup c.toNat).getD [c]

/-- Puts a character in front of a text whose marks are in order; a mark moves behind the marks of
lower classes. -/
def insertMark (c : Char) : List Char → List Char
  | [] => [c]
  | d :: rest =>
      if 0 < markOrder d ∧ markOrder d < markOrder c then d :: insertMark c rest
      else c :: d :: rest

/-- The text taken apart, with its marks in order. -/
def decomposed (cs : List Char) : List Char := (cs.flatMap parts).foldr insertMark []

/-- The Hangul syllable of two parts: a consonant and a vowel, or a syllable without a final
consonant and such a consonant. -/
def joinHangul? (a b : Char) : Option Char :=
  if 0x1100 ≤ a.toNat ∧ a.toNat < 0x1113 ∧ 0x1161 ≤ b.toNat ∧ b.toNat < 0x1176 then
    some (Char.ofNat (0xAC00 + (a.toNat - 0x1100) * 588 + (b.toNat - 0x1161) * 28))
  else if isSyllable a ∧ (a.toNat - 0xAC00) % 28 = 0 ∧ 0x11A7 < b.toNat ∧ b.toNat < 0x11C3 then
    some (Char.ofNat (a.toNat + (b.toNat - 0x11A7)))
  else none

/-- The character that has the parts of one character and another one after them. -/
def join? (a b : Char) : Option Char :=
  if b.toNat < 0x80 then none
  else match joinHangul? a b with
    | some c => some c
    | none =>
        let whole := parts a ++ [b]
        (compositions.find? fun e => e.2 = whole).map fun e => Char.ofNat e.1

/-- Composes a character with those after it. `passed` are marks between them that it did not
compose with; a mark behind another one of the same class, or of a higher one, is out of reach. -/
def composeFrom (a : Char) (passed : List Char) : List Char → List Char
  | [] => a :: passed
  | b :: rest =>
      let reachable := (passed.getLast?.map fun m => decide (markOrder m < markOrder b)).getD true
      match if reachable then join? a b else none with
      | some c => composeFrom c passed rest
      | none =>
          if markOrder b = 0 then a :: passed ++ composeFrom b [] rest
          else composeFrom a (passed ++ [b]) rest

/-- Composes a text that has been taken apart. Marks at its begin stay. -/
def compose : List Char → List Char
  | [] => []
  | c :: rest => if markOrder c = 0 then composeFrom c [] rest else c :: compose rest

def composed (cs : List Char) : List Char := compose (decomposed cs)

end ServiceHealth.Text
