import ServiceHealth.Text.Utf8

/-!
# Places in a YAML text

A cursor is what is left of a text together with the place reached: the number of bytes passed,
the line, and the column, which counts characters. Lines end with a carriage return, a line feed
or both, or with one of the Unicode line ends. Reading a line end gives a line feed, but for the
line and paragraph separators, which stay what they are.
-/
namespace ServiceHealth.Yaml

/-- Ends a line. -/
def isBreak (c : Char) : Bool :=
  c = '\r' || c = '\n' || c = '\u0085' || c = '\u2028' || c = '\u2029'

/-- A space or a tab. -/
def isBlank (c : Char) : Bool := c = ' ' || c = '\t'

/-- A blank, a line end or the end of the text. -/
def isGap : Option Char → Bool
  | some c => isBlank c || isBreak c
  | none => true

/-- A line end or the end of the text. -/
def isLineEnd : Option Char → Bool
  | some c => isBreak c
  | none => true

/-- May stand in names of anchors, tag handles and directives. -/
def isWordChar (c : Char) : Bool := c.isAlphanum || c = '_' || c = '-'

/-- May stand in a YAML text at all. -/
def isAllowed (c : Char) : Bool :=
  let n := c.toNat
  n = 0x09 || n = 0x0A || n = 0x0D || (0x20 ≤ n && n ≤ 0x7E) || n = 0x85 ||
    (0xA0 ≤ n && n ≤ 0xFFFD) || 0x10000 ≤ n

/-- A place in a text and what follows it. -/
structure Cursor where
  rest : List Char
  index : Nat
  line : Nat
  column : Nat

namespace Cursor

def ofChars (cs : List Char) : Cursor := ⟨cs, 0, 0, 0⟩

def peek (c : Cursor) : Option Char := c.rest.head?

def peekAt (c : Cursor) (n : Nat) : Option Char := c.rest[n]?

/-- Passes characters of one line. -/
def skip (c : Cursor) (n : Nat) : Cursor :=
  { c with
    rest := c.rest.drop n
    index := c.index + Text.byteLength (c.rest.take n)
    column := c.column + n }

/-- Passes a line end, which may be of two characters. -/
def skipLine (c : Cursor) : Cursor :=
  match c.rest with
  | '\r' :: '\n' :: rest => ⟨rest, c.index + 2, c.line + 1, 0⟩
  | b :: rest => ⟨rest, c.index + b.utf8Size, c.line + 1, 0⟩
  | [] => c

/-- Passes a line end and returns what it stands for. -/
def readLine (c : Cursor) : List Char × Cursor :=
  match c.peek with
  | some b => ([if b = '\u2028' || b = '\u2029' then b else '\n'], c.skipLine)
  | none => ([], c)

/-- Passes characters of one line that satisfy a test, and returns them. -/
def takeWhile (c : Cursor) (p : Char → Bool) : List Char × Cursor :=
  let found := c.rest.takeWhile p
  (found, c.skip found.length)

def skipWhile (c : Cursor) (p : Char → Bool) : Cursor := (c.takeWhile p).2

/-- Passes a byte order mark at the begin of a line. It takes a column. -/
def skipMark (c : Cursor) : Cursor :=
  if c.column = 0 && c.peek = some '\ufeff' then c.skip 1 else c

/-- Passes blanks and a comment. -/
def skipComment (c : Cursor) : Cursor :=
  let c := c.skipWhile isBlank
  if c.peek = some '#' then c.skipWhile (!isBreak ·) else c

/-- Three equal marks, a gap after them, at the begin of a line. -/
def isMarked (c : Cursor) (mark : Char) : Bool :=
  c.column = 0 && c.rest.take 3 = [mark, mark, mark] && isGap (c.peekAt 3)

/-- The begin or the end of a document is marked here. -/
def isDocumentMark (c : Cursor) : Bool := c.isMarked '-' || c.isMarked '.'

end Cursor

end ServiceHealth.Yaml
