import ServiceHealth.Json.Numeral
import ServiceHealth.Text.Utf8

/-!
# Reading JSON

`read` takes one value from the front of a text. It returns the tree and what is left of the text;
nothing is left where the text breaks. Depth and length are bounded by a count that the length of
the text exceeds, so it never runs out before the text does.
-/
namespace ServiceHealth.Json

/-- Blank between values. -/
def isBlank : Option Char → Bool
  | some c => c = ' ' || c = '\n' || c = '\t' || c = '\r'
  | none => false

def skipBlanks (s : Input) : Input := s.dropWhile isBlank

/-- A piece of a string: a character, half of a pair of escapes, or a stray byte. -/
inductive Piece where
  | char (c : Char)
  | half (unit : Nat)
  | stray
  deriving DecidableEq

def hexDigit? (c : Option Char) : Option Nat := c.bind Text.hexValue?

/-- The value of four hexadecimal digits. -/
def hexUnit? (a b c d : Option Char) : Option Nat := do
  return (((← hexDigit? a) * 16 + (← hexDigit? b)) * 16 + (← hexDigit? c)) * 16 + (← hexDigit? d)

/-- What an escaped unit of sixteen bits stands for. -/
def Piece.ofUnit (n : Nat) : Piece :=
  if 0xD800 ≤ n ∧ n < 0xE000 then .half n else .char (Char.ofNat n)

/-- The characters escaped by a letter. -/
def escaped? (c : Char) : Option Char :=
  if c = '"' then some '"'
  else if c = '\\' then some '\\'
  else if c = '/' then some '/'
  else if c = 'b' then some '\x08'
  else if c = 'f' then some '\x0c'
  else if c = 'n' then some '\n'
  else if c = 'r' then some '\r'
  else if c = 't' then some '\t'
  else none

/-- Puts a piece in front of what has been read. -/
def pushPiece (p : Piece) (found : Option (List Piece × Input)) : Option (List Piece × Input) :=
  found.map fun r => (p :: r.1, r.2)

/-- Reads a string after its opening quote, up to and including the closing one. -/
def readPieces : Input → Option (List Piece × Input)
  | [] => none
  | some '"' :: rest => some ([], rest)
  | some '\\' :: some 'u' :: a :: b :: c :: d :: rest =>
      match hexUnit? a b c d with
      | some n => pushPiece (.ofUnit n) (readPieces rest)
      | none => none
  | some '\\' :: some e :: rest =>
      match escaped? e with
      | some c => pushPiece (.char c) (readPieces rest)
      | none => none
  | some c :: rest =>
      if c = '\\' ∨ c.toNat < 0x20 then none else pushPiece (.char c) (readPieces rest)
  | none :: rest => pushPiece .stray (readPieces rest)

/-- The characters of a string: two halves that form a pair are one character. -/
def assemble : List Piece → Option (List Char)
  | [] => some []
  | .char c :: rest => (assemble rest).map (c :: ·)
  | .half high :: .half low :: rest =>
      if high < 0xDC00 ∧ 0xDC00 ≤ low then
        (assemble rest).map (Char.ofNat (0x10000 + (high - 0xD800) * 0x400 + (low - 0xDC00)) :: ·)
      else none
  | _ => none

def readText (s : Input) : Json × Option Input :=
  match readPieces s with
  | some (pieces, rest) => (.text ((assemble pieces).map String.ofList), some rest)
  | none => (.broken, none)

def readNumber (negative : Bool) (s : Input) : Json × Option Input :=
  match Numeral.read? negative s with
  | some (n, rest) => (.number n.number?, some rest)
  | none => (.broken, none)

def readLiteral (v : Json) : List Char → Input → Json × Option Input
  | [], s => (v, some s)
  | c :: cs, some d :: rest => if c = d then readLiteral v cs rest else (.broken, none)
  | _ :: _, _ => (.broken, none)

/-- Reads a value that is neither an array nor an object. -/
def readScalar : Input → Json × Option Input
  | some '"' :: rest => readText rest
  | some '-' :: rest => readNumber true rest
  | some 't' :: rest => readLiteral (.bool true) "rue".toList rest
  | some 'f' :: rest => readLiteral (.bool false) "alse".toList rest
  | some 'n' :: rest => readLiteral .null "ull".toList rest
  | s => readNumber false s

mutual

def readValue : Nat → Input → Json × Option Input
  | 0, _ => (.broken, none)
  | fuel + 1, s =>
      match skipBlanks s with
      | some '[' :: rest =>
          match skipBlanks rest with
          | some ']' :: rest => (.array [], some rest)
          | _ =>
              let (items, left) := readItems fuel rest
              (.array items, left)
      | some '\x7b' :: rest =>
          match skipBlanks rest with
          | some '\x7d' :: rest => (.object [], some rest)
          | _ =>
              let (members, left) := readMembers fuel rest
              (.object members, left)
      | s => readScalar s

/-- Reads the items of an array up to and including its closing bracket. -/
def readItems : Nat → Input → List Json × Option Input
  | 0, _ => ([.broken], none)
  | fuel + 1, s =>
      match readValue fuel s with
      | (v, none) => ([v], none)
      | (v, some rest) =>
          match skipBlanks rest with
          | some ',' :: rest =>
              let (items, left) := readItems fuel rest
              (v :: items, left)
          | some ']' :: rest => ([v], some rest)
          | _ => ([v, .broken], none)

/-- Reads the members of an object up to and including its closing brace. A name that is no string
breaks the text. -/
def readMembers : Nat → Input → List (Option String × Json) × Option Input
  | 0, _ => ([(none, .broken)], none)
  | fuel + 1, s =>
      match readValue fuel s with
      | (.text k, some rest) =>
          match skipBlanks rest with
          | some ':' :: rest =>
              match readValue fuel rest with
              | (v, none) => ([(k, v)], none)
              | (v, some rest) =>
                  match skipBlanks rest with
                  | some ',' :: rest =>
                      let (members, left) := readMembers fuel rest
                      ((k, v) :: members, left)
                  | some '\x7d' :: rest => ([(k, v)], some rest)
                  | _ => ([(k, v), (none, .broken)], none)
          | _ => ([(k, .broken)], none)
      | _ => ([(none, .broken)], none)

end

/-- Reads one value from the front of a text. -/
def read (s : Input) : Json × Option Input :=
  readValue (2 * s.length + 2) s

def inputOfText (s : String) : Input := s.toList.map some

end ServiceHealth.Json
