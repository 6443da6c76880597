import ServiceHealth.Text.Utf8
import ServiceHealth.Yaml.Cursor

/-!
# Scalars

A scalar is written plain, between quotes, or as a block. Inside plain and quoted scalars line ends
are folded: a single one becomes a space, of several the first is dropped. Blanks around them do
not count. A literal block keeps its lines, a folded one joins those that do not begin with a
blank.
-/
namespace ServiceHealth.Yaml

/-- What stands between two words: the blanks before the first line end, and what the line ends
stand for. -/
structure Space where
  blanks : List Char
  breaks : List Char

namespace Space

def none : Space := ⟨[], []⟩

/-- What the space between two words stands for. -/
def folded (s : Space) : List Char :=
  match s.breaks with
  | [] => s.blanks
  | '\n' :: [] => [' ']
  | '\n' :: rest => rest
  | breaks => breaks

/-- Takes the space at a place. With an indentation given, tabs may not stand in its place. -/
def take (indent : Option Int) : Nat → Space → Cursor → Option (Space × Cursor)
  | 0, s, c => some (s, c)
  | fuel + 1, s, c =>
      match c.peek with
      | some b =>
          if isBlank b then
            if s.breaks.isEmpty then
              take indent fuel { s with blanks := s.blanks ++ [b] } (c.skip 1)
            else if b = '\t' && (indent.map fun i => decide ((c.column : Int) < i)).getD false then
              Option.none
            else take indent fuel s (c.skip 1)
          else if isBreak b then
            let (text, c) := c.readLine
            take indent fuel { s with breaks := s.breaks ++ text } c
          else some (s, c)
      | Option.none => some (s, c)

end Space

/-- Characters that end a plain scalar inside brackets. -/
def isFlowMark (c : Char) : Bool := c = ',' || c = '[' || c = ']' || c = '\x7b' || c = '\x7d'

/-- The characters of a plain scalar up to a gap. A colon ends it before a gap; inside brackets it
may not stand before one of their marks. -/
def plainWord (inFlow : Bool) : List Char → Option (List Char)
  | [] => some []
  | c :: rest =>
      if isBlank c || isBreak c then some []
      else if inFlow && c = ':' &&
          (rest.head?.map fun d => isFlowMark d || d = '?').getD false then none
      else if c = ':' && isGap rest.head? then some []
      else if inFlow && isFlowMark c then some []
      else (plainWord inFlow rest).map (c :: ·)

/-- A plain scalar: its text, whether a line end follows it, and where it ends. -/
structure Plain where
  text : List Char
  endsLine : Bool
  after : Cursor

/-- Reads the words of a plain scalar. `space` is what stands between the words so far and the
cursor. Outside brackets the scalar ends at a word that stands further left than `indent`. -/
def Plain.read (inFlow : Bool) (indent : Int) : Nat → List Char → Space → Cursor → Option Plain
  | 0, _, _, _ => none
  | fuel + 1, text, space, c =>
      if c.isDocumentMark || c.peek = some '#' then some ⟨text, !space.breaks.isEmpty, c⟩
      else do
        let word ← plainWord inFlow c.rest
        let (text, space) :=
          if word.isEmpty then (text, space) else (text ++ space.folded ++ word, .none)
        let c := c.skip word.length
        if (c.peek.map fun b => isBlank b || isBreak b).getD false then
          let (space, c) ← Space.take (some indent) (c.rest.length + 1) space c
          if !inFlow && (c.column : Int) < indent then
            some ⟨text, !space.breaks.isEmpty, c⟩
          else Plain.read inFlow indent fuel text space c
        else some ⟨text, !space.breaks.isEmpty, c⟩

/-- The character that hexadecimal digits stand for; surrogates are none. -/
def hexChar? (digits : List Char) (count : Nat) : Option Char := do
  guard (digits.length = count)
  let n ← digits.foldlM (fun n c => (Text.hexValue? c).map (n * 16 + ·)) 0
  if n.isValidChar then some (Char.ofNat n) else none

/-- The characters escaped by a single one. -/
def escapes : List (Char × Char) :=
  [('0', '\x00'), ('a', '\x07'), ('b', '\x08'), ('t', '\t'), ('\t', '\t'), ('n', '\n'),
    ('v', '\x0b'), ('f', '\x0c'), ('r', '\r'), ('e', '\x1b'), (' ', ' '), ('"', '"'), ('/', '/'),
    ('\\', '\\'), ('N', '\u0085'), ('_', '\u00a0'), ('L', '\u2028'), ('P', '\u2029')]

/-- Reads an escape whose backslash has been passed: the character and the length. -/
def escape? : List Char → Option (Char × Nat)
  | 'x' :: rest => (hexChar? (rest.take 2) 2).map (·, 3)
  | 'u' :: rest => (hexChar? (rest.take 4) 4).map (·, 5)
  | 'U' :: rest => (hexChar? (rest.take 8) 8).map (·, 9)
  | c :: _ => (escapes.lookup c).map (·, 1)
  | [] => none

/-- How a word of a quoted scalar ends. It is joined to what follows an escaped line end. -/
inductive WordEnd where
  | quote
  | gap
  | joined

/-- Reads a word between single quotes; a doubled quote stands for one. -/
def singleWord : Nat → List Char → Cursor → List Char × WordEnd × Cursor
  | 0, text, c => (text, .gap, c)
  | fuel + 1, text, c =>
      match c.rest with
      | '\x27' :: '\x27' :: _ => singleWord fuel (text ++ ['\x27']) (c.skip 2)
      | '\x27' :: _ => (text, .quote, c)
      | b :: _ =>
          if isBlank b || isBreak b then (text, .gap, c)
          else singleWord fuel (text ++ [b]) (c.skip 1)
      | [] => (text, .gap, c)

/-- Reads a word between double quotes. -/
def doubleWord : Nat → List Char → Cursor → Option (List Char × WordEnd × Cursor)
  | 0, _, _ => none
  | fuel + 1, text, c =>
      match c.rest with
      | '"' :: _ => some (text, .quote, c)
      | '\\' :: b :: rest =>
          if isBreak b then some (text, .joined, (c.skip 1).skipLine)
          else do
            let (d, length) ← escape? (b :: rest)
            doubleWord fuel (text ++ [d]) (c.skip (1 + length))
      | '\\' :: [] => none
      | b :: _ =>
          if isBlank b || isBreak b then some (text, .gap, c)
          else doubleWord fuel (text ++ [b]) (c.skip 1)
      | [] => some (text, .gap, c)

/-- Takes the space between two words of a quoted scalar. After an escaped line end blanks do not
count. -/
def quotedSpace (joined : Bool) (c : Cursor) : Option (List Char × Cursor) := do
  let (s, c) ← Space.take none (c.rest.length + 1) .none c
  return (if joined then s.breaks else s.folded, c)

/-- Reads a quoted scalar after its opening quote: its text, and where it ends. -/
def readQuoted (double : Bool) : Nat → List Char → Cursor → Option (List Char × Cursor)
  | 0, _, _ => none
  | fuel + 1, text, c =>
      if c.isDocumentMark || c.rest.isEmpty then none
      else do
        let (text, wordEnd, c) ←
          if double then doubleWord (c.rest.length + 1) text c
          else some (singleWord (c.rest.length + 1) text c)
        match wordEnd with
        | .quote => some (text, c.skip 1)
        | .gap =>
            let (space, c) ← quotedSpace false c
            readQuoted double fuel (text ++ space) c
        | .joined =>
            let (space, c) ← quotedSpace true c
            readQuoted double fuel (text ++ space) c

/-- What becomes of the line ends at the end of a block. -/
inductive Chomping where
  | strip
  | clip
  | keep

/-- The signs after the indicator of a block: chomping and indentation, in either order. -/
def blockHeader (c : Cursor) : Option (Chomping × Option Nat × Cursor) :=
  let sign (c : Cursor) : Option Chomping :=
    match c.peek with
    | some '+' => some .keep
    | some '-' => some .strip
    | _ => none
  let digit (c : Cursor) : Option Nat :=
    match c.peek with
    | some d => if d.isDigit then some (d.toNat - '0'.toNat) else none
    | none => none
  match sign c with
  | some chomping =>
      match digit (c.skip 1) with
      | some 0 => none
      | some n => some (chomping, some n, c.skip 2)
      | none => some (chomping, none, c.skip 1)
  | none =>
      match digit c with
      | some 0 => none
      | some n =>
          match sign (c.skip 1) with
          | some chomping => some (chomping, some n, c.skip 2)
          | none => some (.clip, some n, c.skip 1)
      | none => some (.clip, none, c)

/-- Passes indentation and empty lines of a block. Without an indentation all spaces are passed.
The answer has what the line ends stand for and the rightmost column reached. -/
def blockBreaks (indent : Option Nat) :
    Nat → List Char → Nat → Cursor → Option (List Char × Nat × Cursor)
  | 0, _, _, _ => none
  | fuel + 1, breaks, rightmost, c =>
      let spaces := (c.rest.takeWhile (· = ' ')).length
      let n := match indent with
        | some i => min spaces (i - c.column)
        | none => spaces
      let c := c.skip n
      let rightmost := max rightmost c.column
      let isInside := match indent with
        | some i => decide (i ≤ c.column)
        | none => false
      if c.peek = some '\t' && !isInside then none
      else if (c.peek.map isBreak).getD false then
        let (text, c) := c.readLine
        blockBreaks indent fuel (breaks ++ text) rightmost c
      else some (breaks, rightmost, c)

/-- The lines of a block: `leading` is the last line end, `trailing` those of empty lines after it,
and `afterBlank` says that the last line began with a blank. -/
def blockLines (literal : Bool) (indent : Nat) :
    Nat → List Char → List Char → List Char → Bool → Cursor →
      Option (List Char × List Char × List Char × Cursor)
  | 0, _, _, _, _, _ => none
  | fuel + 1, text, leading, trailing, afterBlank, c =>
      if c.column = indent && !c.rest.isEmpty then
        let beginsBlank := (c.peek.map isBlank).getD false
        let joint :=
          if !literal && leading = ['\n'] && !afterBlank && !beginsBlank then
            if trailing.isEmpty then [' '] else []
          else leading
        let (line, c) := c.takeWhile (!isBreak ·)
        let (leading, c) := c.readLine
        match blockBreaks (some indent) (c.rest.length + 1) [] 0 c with
        | some (trailing', _, c) =>
            blockLines literal indent fuel (text ++ joint ++ trailing ++ line) leading trailing'
              beginsBlank c
        | none => none
      else some (text, leading, trailing, c)

/-- Reads a block after its indicator. `parent` is the indentation around it. -/
def readBlock (literal : Bool) (parent : Int) (c : Cursor) : Option (List Char × Cursor) := do
  let (chomping, increment, c) ← blockHeader c
  let c := c.skipComment
  guard (isLineEnd c.peek)
  let c := c.skipLine
  let given := increment.map fun (n : Nat) => if parent ≥ 0 then parent.toNat + n else n
  let (trailing, rightmost, c) ← blockBreaks given (c.rest.length + 1) [] 0 c
  let indent := given.getD (max (max rightmost (parent + 1).toNat) 1)
  let (text, leading, trailing, c) ←
    blockLines literal indent (c.rest.length + 1) [] [] trailing false c
  let text :=
    match chomping with
    | .strip => text
    | .clip => text ++ leading
    | .keep => text ++ leading ++ trailing
  return (text, c)

end ServiceHealth.Yaml
