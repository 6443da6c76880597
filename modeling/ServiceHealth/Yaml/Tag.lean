import ServiceHealth.Text.Utf8
import ServiceHealth.Yaml.Cursor

/-!
# Tags

A tag says what a node stands for. It is a string of bytes: percent escapes give bytes of any
value, as long as they come in groups of the size that the first byte of a group announces, and
the bytes need not be well-formed text. A zero byte ends a tag; what follows it does not count.
-/
namespace ServiceHealth.Yaml

/-- A tag. It holds no zero byte if it is made with `ofBytes`. -/
structure Tag where
  bytes : List UInt8
  deriving DecidableEq, Repr

namespace Tag

/-- The tag that bytes stand for. -/
def ofBytes (bytes : List UInt8) : Tag := ⟨bytes.takeWhile (· != 0)⟩

def ofText (s : String) : Tag := ofBytes (s.toList.flatMap String.utf8EncodeChar)

/-- A tag of the common schema. -/
def common (name : String) : Tag := ofText ("tag:yaml.org,2002:" ++ name)

/-- The tag `!`. Where it is all that is given, it says nothing about a scalar. -/
def plain : Tag := ofText "!"

/-- A tag begun by one and ended by another. -/
def append (stem suffix : Tag) : Tag := ⟨stem.bytes ++ suffix.bytes⟩

/-- The number of bytes in a group that begins with a byte. -/
def groupSize? (b : UInt8) : Option Nat :=
  if b < 0x80 then some 1
  else if b < 0xC0 then none
  else if b < 0xE0 then some 2
  else if b < 0xF0 then some 3
  else if b < 0xF8 then some 4
  else none

/-- Continues a group. -/
def isTrailing (b : UInt8) : Bool := 0x80 ≤ b && b < 0xC0

/-- The byte of a percent escape at the front. -/
def escapedByte? : List Char → Option UInt8
  | '%' :: a :: b :: _ => Text.hexByte? a b
  | _ => none

/-- The bytes of so many percent escapes at the front, all of which continue a group. -/
def trailingBytes? : Nat → List Char → Option (List UInt8)
  | 0, _ => some []
  | more + 1, cs => do
      let b ← escapedByte? cs
      guard (isTrailing b)
      return b :: (← trailingBytes? more (cs.drop 3))

/-- The group of bytes that percent escapes at the front give. -/
def escapedGroup? (cs : List Char) : Option (List UInt8) := do
  let b ← escapedByte? cs
  let size ← groupSize? b
  return b :: (← trailingBytes? (size - 1) (cs.drop 3))

/-- May stand in a tag. Verbatim tags and directives may also hold some marks of brackets. -/
def isTagChar (verbatim : Bool) (c : Char) : Bool :=
  isWordChar c || ";/?:@&=+$.%!~*\x27()".toList.contains c || (verbatim && ",[]".toList.contains c)

def readBytes (verbatim : Bool) : Nat → List UInt8 → Cursor → Option (List UInt8 × Cursor)
  | 0, _, _ => none
  | fuel + 1, bytes, c =>
      match c.peek with
      | some '%' => do
          let group ← escapedGroup? c.rest
          readBytes verbatim fuel (bytes ++ group) (c.skip (3 * group.length))
      | some b =>
          if isTagChar verbatim b then
            readBytes verbatim fuel (bytes ++ String.utf8EncodeChar b) (c.skip 1)
          else some (bytes, c)
      | none => some (bytes, c)

/-- Reads a tag of at least one byte. -/
def read (verbatim : Bool) (c : Cursor) : Option (Tag × Cursor) := do
  let (bytes, c) ← readBytes verbatim (c.rest.length + 1) [] c
  guard (!bytes.isEmpty)
  return (ofBytes bytes, c)

/-- Reads a handle: `!`, word characters, and perhaps another `!`. -/
def readHandle (c : Cursor) : Option (List Char × Cursor) :=
  if c.peek = some '!' then
    let (word, after) := (c.skip 1).takeWhile isWordChar
    if after.peek = some '!' then some ('!' :: word ++ ['!'], after.skip 1)
    else some ('!' :: word, after)
  else none

/-- Reads a tag that is no verbatim one, as a handle and what follows it. What seems to be a
handle but does not end with a mark is the begin of a tag of the document. -/
def readShort (c : Cursor) : Option ((String × Tag) × Cursor) := do
  let (handle, after) ← readHandle c
  if 1 < handle.length && handle.getLast? = some '!' then
    let (suffix, c) ← read false after
    return ((String.ofList handle, suffix), c)
  else
    let word := (handle.drop 1).flatMap String.utf8EncodeChar
    let (bytes, c) ← readBytes false (after.rest.length + 1) word after
    let suffix := ofBytes bytes
    return (if suffix.bytes.isEmpty then ("", plain) else ("!", suffix), c)

/-- Reads a tag that is given in full between angles. -/
def readVerbatim (c : Cursor) : Option ((String × Tag) × Cursor) := do
  let (tag, c) ← read true (c.skip 2)
  guard (c.peek = some '>')
  return (("", tag), c.skip 1)

/-- Reads a tag with its handle. -/
def readWithHandle (c : Cursor) : Option ((String × Tag) × Cursor) :=
  if c.peekAt 1 = some '<' then readVerbatim c else readShort c

end Tag

end ServiceHealth.Yaml
