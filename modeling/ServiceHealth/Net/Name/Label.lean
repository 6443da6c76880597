import ServiceHealth.Net.Name.Direction
import ServiceHealth.Net.Name.ImageTable
import ServiceHealth.Net.Name.Joining
import ServiceHealth.Text.Composed
import ServiceHealth.Text.Fold
import ServiceHealth.Text.Punycode

/-!
# Labels of names

A name is made of labels with points between them. Many spellings stand for one name: letter case
does not count, characters with a compatible form stand for that form, and some do not count at
all. A label with characters outside ASCII has a form in ASCII, which begins with `xn--`; such a
label may also be given in that form, and is then checked like one that is not.
-/
namespace ServiceHealth.Net.Name

/-- The characters that stand for others, with what they stand for. -/
def images : List (Nat × List Char) := Text.entries imageRows

/-- A capital letter of the Cherokee script, where the capitals are the usual form. -/
def isCherokee (c : Char) : Bool := 0x13A0 ≤ c.toNat && c.toNat ≤ 0x13F5

/-- What a character of a name stands for; some may not stand in one. -/
def image? (c : Char) : Option (List Char) :=
  let n := c.toNat
  if n < 0x80 then some [c.toLower]
  else if isJoiner c || isCherokee c then some [c]
  else if Text.inRanges ignoredRanges n then some []
  else match images.lookup n with
    | some image => some image
    | none =>
        if Text.inRanges newestRanges n then some [c]
        else if Text.inRanges refusedRanges n || Text.inRanges Text.unprintableRanges n then none
        else some (Text.lowerChar c)

/-- The usual spelling of a name, if all its characters may stand in one. -/
def spelling? (cs : List Char) : Option (List Char) :=
  (cs.mapM image?).map fun images => Text.composed images.flatten

/-- The begin of a label that is given in its form in ASCII. -/
def asciiMark : List Char := "xn--".toList

/-- A label that does not begin with a mark and holds no idle joiners. -/
def isProper (label : List Char) : Bool :=
  !(label.head?.map Text.isMark).getD false && areJoinersInPlace [] label

/-- A label that is its own usual spelling. -/
def isUsual (label : List Char) : Bool := spelling? label = some label

/-- A label as it is meant to be read, and as it is written in ASCII. -/
structure Label where
  shown : List Char
  written : List Char

/-- The label that the form in ASCII stands for. It holds a character that needs the form, and is
not too long to be written again. -/
def Label.decode? (written : List Char) : Option Label := do
  let shown ← Text.Punycode.decode? (written.drop asciiMark.length)
  guard (shown.length ≤ Text.Punycode.maxLength)
  guard (shown.any (0x80 ≤ ·.toNat) && isUsual shown && !asciiMark.isPrefixOf shown)
  return ⟨shown, written⟩

def Label.encode? (shown : List Char) : Option Label :=
  if shown.all (·.toNat < 0x80) then some ⟨shown, shown⟩
  else (Text.Punycode.encode? shown).map fun code => ⟨shown, asciiMark ++ code⟩

def Label.read? (cs : List Char) : Option Label := do
  let label ← if asciiMark.isPrefixOf cs then decode? cs else encode? cs
  guard (isProper label.shown)
  return label

def labels? (cs : List Char) : Option (List Label) := do
  let labels ← (Text.pieces (· = '.') (← spelling? cs)).mapM Label.read?
  let shown := labels.map Label.shown
  guard (!isMixed shown || shown.all keepsDirection)
  return labels

def ascii? (cs : List Char) : Option (List Char) :=
  (labels? cs).map fun labels => ['.'].intercalate (labels.map Label.written)

end ServiceHealth.Net.Name
