import ServiceHealth.Decimal.Text
import ServiceHealth.Json.Basic
import ServiceHealth.Text.Quoted

/-!
# Writing JSON

Values are written without blanks. In a string the quote, the backslash and the control characters
are escaped, by a letter where there is one; all other characters stand for themselves.
-/
namespace ServiceHealth

def Number.toText : Number → String
  | .natural n => toString n
  | .negative n => "-" ++ toString n
  | .real x => Decimal.messageText x

namespace Json

def controlEscape (n : Nat) : List Char :=
  ['\\', 'u', '0', '0', Nat.digitChar (n / 16), Nat.digitChar (n % 16)]

def escapeChar (c : Char) : List Char :=
  if c = '"' then ['\\', '"']
  else if c = '\\' then ['\\', '\\']
  else if c = '\x08' then ['\\', 'b']
  else if c = '\x0c' then ['\\', 'f']
  else if c = '\n' then ['\\', 'n']
  else if c = '\r' then ['\\', 'r']
  else if c = '\t' then ['\\', 't']
  else if c.toNat < 0x20 then controlEscape c.toNat
  else [c]

def writeText (s : String) : List Char :=
  '"' :: s.toList.flatMap escapeChar ++ ['"']

/-- A string or a name, unless it stands for no text. -/
def writeText? (name : Option String) : List Char :=
  (name.map writeText).getD []

mutual

/-- The written form of a value. What has no written form is left out. -/
def write : Json → List Char
  | .null => "null".toList
  | .bool true => "true".toList
  | .bool false => "false".toList
  | .number n => (n.map Number.toText).getD "" |>.toList
  | .text s => writeText? s
  | .array items => '[' :: writeItems items
  | .object members => '\x7b' :: writeMembers members
  | .broken => []

/-- Items with commas between them and the closing bracket. -/
def writeItems : List Json → List Char
  | [] => [']']
  | [v] => v.write ++ [']']
  | v :: w :: rest => v.write ++ ',' :: writeItems (w :: rest)

/-- Members with commas between them and the closing brace. -/
def writeMembers : List (Option String × Json) → List Char
  | [] => ['\x7d']
  | [(k, v)] => writeText? k ++ ':' :: v.write ++ ['\x7d']
  | (k, v) :: m :: rest => writeText? k ++ ':' :: v.write ++ ',' :: writeMembers (m :: rest)

end

def toText (v : Json) : String := String.ofList v.write

end Json

end ServiceHealth
