import ServiceHealth.Text.Basic
import ServiceHealth.Text.CaseTable

/-!
# Case folding

Names and metadata keys are compared by their full lower-case form. Each character is mapped on
its own, with two exceptions of the Unicode standard: the capital I with a dot above becomes an i
and a combining dot, and a capital sigma becomes the final form when it ends a word. A sigma ends
a word when, skipping case-ignorable characters, a cased letter precedes it and none follows.
-/
namespace ServiceHealth.Text

def isCased (c : Char) : Bool :=
  inRanges casedRanges c.toNat

/-- Does not end a word for the purpose of letter case. -/
def isCaseIgnorable (c : Char) : Bool :=
  inRanges caseIgnorableRanges c.toNat

/-- The code points of a run, moved by the run's distance. -/
def CaseRun.lower? (run : CaseRun) (n : Nat) : Option Nat :=
  if run.first ≤ n ∧ n ≤ run.last ∧ (n - run.first) % run.step = 0 then
    some ((n : Int) + run.shift).toNat
  else none

/-- The lower-case form of one character, whatever stands around it. ASCII letters, by far the
most frequent, are mapped without the table. -/
def lowerChar (c : Char) : List Char :=
  if c.toNat < 0x80 then [c.toLower]
  else if c = 'İ' then ['i', '\u0307']
  else [((caseRuns.findSome? fun run => run.lower? c.toNat).map Char.ofNat).getD c]

/-- After the case-ignorable characters comes a cased one. -/
def nextIsCased (cs : List Char) : Bool :=
  ((cs.dropWhile isCaseIgnorable).head?.map isCased).getD false

/-- The lower-case form of a capital sigma between `before`, read backwards, and `after`. -/
def lowerSigma (before after : List Char) : Char :=
  if nextIsCased before && !nextIsCased after then 'ς' else 'σ'

/-- Lower-cases the characters that follow `before`, which is given backwards. -/
def foldAfter (before : List Char) : List Char → List Char
  | [] => []
  | c :: rest =>
      (if c = 'Σ' then [lowerSigma before rest] else lowerChar c) ++ foldAfter (c :: before) rest

/-- The full lower-case form. -/
def fold (s : String) : String :=
  String.ofList (foldAfter [] s.toList)

def sameFold (a b : String) : Bool :=
  fold a = fold b

end ServiceHealth.Text
