import ServiceHealth.Yaml.Scalar
import ServiceHealth.Yaml.Tag

/-!
# Tokens

A YAML text as a list of tokens. Structure that the text shows by indentation is made explicit:
a block collection begins with a token of its own and ends with another. A key without a mark is
recognised only by the colon after it; so the place of every token that might be such a key is
remembered, and the tokens for the key are put in there once the colon is found. Such a key ends
in the line in which it begins and at most 1024 bytes after its begin.
-/
namespace ServiceHealth.Yaml

/-- How a scalar is written, as far as it matters for its meaning. -/
inductive Style where
  | plain
  | quoted
  | literal
  | folded
  deriving DecidableEq, Repr

inductive Token where
  | streamEnd
  | version (major minor : Nat)
  | tagDirective (handle : String) (stem : Tag)
  | documentStart
  | documentEnd
  | blockSequence
  | blockMapping
  | blockEnd
  | flowSequence
  | flowSequenceEnd
  | flowMapping
  | flowMappingEnd
  | blockEntry
  | flowEntry
  | key
  | value
  | alias (name : String)
  | anchor (name : String)
  | tag (handle : String) (suffix : Tag)
  | scalar (text : String) (style : Style)
  deriving DecidableEq, Repr

/-- A place where a key without a mark may have begun, with the number of tokens before it. The text
is wrong if a required one is no key. -/
structure Candidate where
  position : Nat
  index : Nat
  line : Nat
  column : Nat
  required : Bool

/-- A text in the course of being divided into tokens. `indent` is the column of the innermost block
collection, or -1, and `outer` holds those around it. There is a candidate for each open bracket
and, last, one outside all. -/
structure Lexer where
  cursor : Cursor
  tokens : Array Token
  depth : Nat
  indent : Int
  outer : List Int
  keyAllowed : Bool
  candidates : List (Option Candidate)

namespace Lexer

def ofChars (cs : List Char) : Lexer := ⟨.ofChars cs, #[], 0, -1, [], true, [none]⟩

/-- Brackets are open. -/
def inFlow (l : Lexer) : Bool := l.depth != 0

def push (l : Lexer) (t : Token) : Lexer := { l with tokens := l.tokens.push t }

/-- Puts a token in before those from a position on. -/
def insertAt (l : Lexer) (position : Nat) (t : Token) : Lexer :=
  { l with tokens := l.tokens.take position ++ #[t] ++ l.tokens.drop position }

/-- Allows or forbids a key. -/
def allowKey (l : Lexer) (allowed : Bool) : Lexer := { l with keyAllowed := allowed }

def moveTo (l : Lexer) (c : Cursor) : Lexer := { l with cursor := c }

/-- Passes marks and adds their token. -/
def mark (l : Lexer) (length : Nat) (t : Token) : Lexer := (l.moveTo (l.cursor.skip length)).push t

/-- A candidate whose key would now be too long. -/
def isStale (l : Lexer) (k : Candidate) : Bool :=
  k.line < l.cursor.line || k.index + 1024 < l.cursor.index

/-- Drops candidates whose keys would be too long. -/
def dropStale (l : Lexer) : Option Lexer := do
  let candidates ← l.candidates.mapM fun k =>
    match k with
    | some k => if l.isStale k then (if k.required then none else some none) else some (some k)
    | none => some none
  return { l with candidates := candidates }

/-- Drops the innermost candidate. -/
def dropCandidate (l : Lexer) : Option Lexer :=
  match l.candidates with
  | some k :: rest => if k.required then none else some { l with candidates := none :: rest }
  | _ => some l

/-- Remembers the place as one where a key may begin, if one may. -/
def saveCandidate (l : Lexer) : Option Lexer :=
  if l.keyAllowed then do
    let c := l.cursor
    let l ← l.dropCandidate
    let required := !l.inFlow && l.indent = (c.column : Int)
    return { l with
      candidates := some ⟨l.tokens.size, c.index, c.line, c.column, required⟩ ::
        l.candidates.drop 1 }
  else some l

/-- Opens a block collection whose entries stand in a column, unless it is open already. -/
def openBlock (l : Lexer) (column : Nat) (position : Option Nat) (t : Token) : Lexer :=
  if !l.inFlow && l.indent < (column : Int) then
    let l := { l with outer := l.indent :: l.outer, indent := column }
    match position with
    | some p => l.insertAt p t
    | none => l.push t
  else l

/-- Closes the block collections whose entries stand right of a column. -/
def closeBlocks (l : Lexer) (column : Int) : Lexer :=
  if l.inFlow then l else close l.outer.length l
where
  close : Nat → Lexer → Lexer
    | 0, l => l
    | more + 1, l =>
        if column < l.indent then
          match l.outer with
          | i :: outer => close more ({ l with indent := i, outer := outer }.push .blockEnd)
          | [] => l
        else l

/-- Passes blanks, comments, line ends and byte order marks at the begin of lines, up to the next
token. A tab does not count where a key may begin. -/
def skipSpace : Nat → Lexer → Lexer
  | 0, l => l
  | fuel + 1, l =>
      let tabs := l.inFlow || !l.keyAllowed
      let c := l.cursor.skipMark.skipWhile fun b => b = ' ' || (tabs && b = '\t')
      let c := if c.peek = some '#' then c.skipWhile (!isBreak ·) else c
      if (c.peek.map isBreak).getD false then
        let l := l.moveTo c.skipLine
        skipSpace fuel (if l.inFlow then l else l.allowKey true)
      else l.moveTo c

/-- Adds a tag. It has to be followed by a gap or, inside brackets, by a comma. -/
def fetchTag (l : Lexer) : Option Lexer := do
  let ((handle, suffix), c) ← Tag.readWithHandle l.cursor
  guard (isGap c.peek || (l.inFlow && c.peek = some ','))
  return (l.moveTo c).push (.tag handle suffix)

def fetchName (l : Lexer) (token : String → Token) : Option Lexer := do
  let (name, c) := (l.cursor.skip 1).takeWhile isWordChar
  let ends := isGap c.peek || (c.peek.map "?:,]\x7d%@\x60".toList.contains).getD false
  guard (!name.isEmpty && ends)
  return (l.moveTo c).push (token (String.ofList name))

/-- A number of at most nine digits. -/
def versionNumber? (c : Cursor) : Option (Nat × Cursor) := do
  let (digits, c) := c.takeWhile Char.isDigit
  guard (!digits.isEmpty && digits.length ≤ 9)
  return (digits.foldl (fun n d => n * 10 + (d.toNat - '0'.toNat)) 0, c)

/-- Reads the arguments of a directive. -/
def directiveArguments? (name : List Char) (c : Cursor) : Option (Token × Cursor) :=
  let c := c.skipWhile isBlank
  if name = "YAML".toList then do
    let (major, c) ← versionNumber? c
    guard (c.peek = some '.')
    let (minor, c) ← versionNumber? (c.skip 1)
    return (.version major minor, c)
  else if name = "TAG".toList then do
    let (handle, c) ← Tag.readHandle c
    guard (handle.length = 1 || handle.getLast? = some '!')
    guard ((c.peek.map isBlank).getD false)
    let c := c.skipWhile isBlank
    let (stem, c) ← Tag.read true c
    guard (isGap c.peek)
    return (.tagDirective (String.ofList handle) stem, c)
  else none

/-- Adds a directive. -/
def fetchDirective (l : Lexer) : Option Lexer := do
  let (name, c) := (l.cursor.skip 1).takeWhile isWordChar
  guard (!name.isEmpty && isGap c.peek)
  let (t, c) ← directiveArguments? name c
  let c := c.skipComment
  guard (isLineEnd c.peek)
  return (l.moveTo c.skipLine).push t

/-- Ends what is open outside brackets, as directives and document marks do. -/
def closeAll (l : Lexer) : Option Lexer := do
  let l ← (l.closeBlocks (-1)).dropCandidate
  return l.allowKey false

def openFlow (l : Lexer) (t : Token) : Option Lexer := do
  let l ← l.saveCandidate
  let inside := { l with depth := l.depth + 1, candidates := none :: l.candidates }
  return (inside.allowKey true).mark 1 t

def closeFlow (l : Lexer) (t : Token) : Option Lexer := do
  let l ← l.dropCandidate
  let outside :=
    if l.inFlow then { l with depth := l.depth - 1, candidates := l.candidates.drop 1 } else l
  return (outside.allowKey false).mark 1 t

def fetchBlockEntry (l : Lexer) : Option Lexer := do
  guard (l.inFlow || l.keyAllowed)
  let l ← (l.openBlock l.cursor.column none .blockSequence).dropCandidate
  return (l.allowKey true).mark 1 .blockEntry

def fetchKey (l : Lexer) : Option Lexer := do
  guard (l.inFlow || l.keyAllowed)
  let l ← (l.openBlock l.cursor.column none .blockMapping).dropCandidate
  return (l.allowKey !l.inFlow).mark 1 .key

/-- Adds the mark of a value. If there is a candidate, it was a key. -/
def fetchValue (l : Lexer) : Option Lexer :=
  match l.candidates with
  | some k :: rest =>
      let l := (l.insertAt k.position .key).openBlock k.column (some k.position) .blockMapping
      some (({ l with candidates := none :: rest }.allowKey false).mark 1 .value)
  | _ =>
      if !l.inFlow && !l.keyAllowed then none
      else
        let l := l.openBlock l.cursor.column none .blockMapping
        some ((l.allowKey !l.inFlow).mark 1 .value)

def fetchBlock (l : Lexer) (literal : Bool) : Option Lexer := do
  let l ← l.dropCandidate
  let (text, c) ← readBlock literal l.indent (l.cursor.skip 1)
  return ((l.allowKey true).moveTo c).push
    (.scalar (String.ofList text) (if literal then .literal else .folded))

def fetchQuoted (l : Lexer) (double : Bool) : Option Lexer := do
  let l ← l.saveCandidate
  let (text, c) ← readQuoted double (l.cursor.rest.length + 1) [] (l.cursor.skip 1)
  return ((l.allowKey false).moveTo c).push (.scalar (String.ofList text) .quoted)

def fetchPlain (l : Lexer) : Option Lexer := do
  let l ← l.saveCandidate
  let p ← Plain.read l.inFlow (l.indent + 1) (l.cursor.rest.length + 1) [] .none l.cursor
  return ((l.allowKey p.endsLine).moveTo p.after).push (.scalar (String.ofList p.text) .plain)

/-- Characters that a plain scalar does not begin with, unless a word follows some of them. -/
def indicators : List Char :=
  "-?:,[]\x7b\x7d#&*!|>\x27\"%@\x60".toList

/-- A plain scalar begins with a character before another one. -/
def beginsPlain (inFlow : Bool) (c : Char) (next : Option Char) : Bool :=
  if c = '-' then !(next.map isBlank).getD false
  else if c = '?' || c = ':' then !inFlow && !isGap next
  else !indicators.contains c && !isBlank c && !isBreak c

/-- Adds the token that begins with a character. -/
def fetchFrom (l : Lexer) (c : Char) : Option Lexer :=
  let next := l.cursor.peekAt 1
  if c = '[' then l.openFlow .flowSequence
  else if c = '\x7b' then l.openFlow .flowMapping
  else if c = ']' then l.closeFlow .flowSequenceEnd
  else if c = '\x7d' then l.closeFlow .flowMappingEnd
  else if c = ',' then do return ((← l.dropCandidate).allowKey true).mark 1 .flowEntry
  else if c = '-' && isGap next then l.fetchBlockEntry
  else if c = '?' && (l.inFlow || isGap next) then l.fetchKey
  else if c = ':' && (l.inFlow || isGap next) then l.fetchValue
  else if c = '*' then do ((← l.saveCandidate).allowKey false).fetchName .alias
  else if c = '&' then do ((← l.saveCandidate).allowKey false).fetchName .anchor
  else if c = '!' then do ((← l.saveCandidate).allowKey false).fetchTag
  else if c = '|' && !l.inFlow then l.fetchBlock true
  else if c = '>' && !l.inFlow then l.fetchBlock false
  else if c = '\x27' then l.fetchQuoted false
  else if c = '"' then l.fetchQuoted true
  else if beginsPlain l.inFlow c next then l.fetchPlain
  else none

/-- Adds tokens until the text ends. -/
def fetchAll : Nat → Lexer → Option (Array Token)
  | 0, _ => none
  | fuel + 1, l => do
      let l ← (l.skipSpace (l.cursor.rest.length + 1)).dropStale
      let l := l.closeBlocks l.cursor.column
      match l.cursor.peek with
      | none => return ((← l.closeAll).push .streamEnd).tokens
      | some c =>
          if l.cursor.column = 0 && c = '%' then
            fetchAll fuel (← (← l.closeAll).fetchDirective)
          else if l.cursor.isMarked '-' then fetchAll fuel ((← l.closeAll).mark 3 .documentStart)
          else if l.cursor.isMarked '.' then fetchAll fuel ((← l.closeAll).mark 3 .documentEnd)
          else fetchAll fuel (← l.fetchFrom c)

end Lexer

/-- The tokens of a text, unless it cannot be divided into tokens. -/
def Token.ofText? (s : String) : Option (List Token) := do
  let cs := s.toList
  guard (cs.all isAllowed)
  return (← (Lexer.ofChars cs).fetchAll (cs.length + 1)).toList

end ServiceHealth.Yaml
