import ServiceHealth.Text.Basic

/-!
# Media types

A body counts as JSON when its media type is `application/json` or an application type with the
suffix `+json`, in any letter case. Parameters do not matter, but have to be well-formed.
-/
namespace ServiceHealth.Api.MediaType

/-- Characters other than letters and digits that may stand in the parts of a media type. -/
def marks : List Char := "!#$%&'*+-.^_|~".toList ++ ['\x60']

def isPartChar (c : Char) : Bool := c.isAlphanum || marks.contains c

def isQuotedChar (c : Char) : Bool := 31 < c.toNat && c.toNat != 127

/-- Which part of the parameters comes next. -/
inductive Place where
  | beforeName
  | name
  | beforeValue
  | value
  | beforeQuoted
  | quoted
  | afterQuoted
  deriving DecidableEq

/-- The place after a character, if it may stand there. -/
def Place.next? (p : Place) (c : Char) : Option Place :=
  match p with
  | .beforeName =>
      if c = ' ' then some .beforeName else if isPartChar c then some .name else none
  | .name =>
      if c = '=' then some .beforeValue else if isPartChar c then some .name else none
  | .beforeValue =>
      if c = '"' then some .beforeQuoted else if isPartChar c then some .value else none
  | .value =>
      if c = ';' then some .beforeName else if isPartChar c then some .value else none
  | .beforeQuoted => if isQuotedChar c then some .quoted else none
  | .quoted =>
      if c = '"' then some .afterQuoted else if isQuotedChar c then some .quoted else none
  | .afterQuoted =>
      if c = ';' then some .beforeName else if c = ' ' then some .afterQuoted else none

/-- Parameters may end here. -/
def Place.mayEnd : Place → Bool
  | .beforeName | .beforeValue | .value | .afterQuoted => true
  | .name | .beforeQuoted | .quoted => false

def areParameters (cs : List Char) : Bool :=
  match cs.foldlM Place.next? .beforeName with
  | some p => p.mayEnd
  | none => false

/-- Splits a subtype at its last plus sign; one in front does not count. -/
def splitSuffix (subtype : List Char) : List Char × Option (List Char) :=
  let suffix := (subtype.reverse.takeWhile (· != '+')).reverse
  let base := subtype.take (subtype.length - suffix.length - 1)
  if base.isEmpty then (subtype, none) else (base, some suffix)

def isJsonSubtype (subtype : List Char) : Bool :=
  let (base, suffix) := splitSuffix subtype
  base = "json".toList || suffix = some "json".toList

/-- A content type that stands for JSON. -/
def isJson (contentType : String) : Bool :=
  let cs := (Text.lowerAscii contentType).toList
  let (type, rest) := cs.span isPartChar
  match rest with
  | '/' :: rest =>
      let (subtype, rest) := rest.span isPartChar
      let parameters :=
        match rest with
        | [] => true
        | ';' :: rest => areParameters rest
        | _ => false
      cs.all (fun c => 0x20 ≤ c.toNat && c.toNat < 0x7F || c = '\t') &&
        type = "application".toList && !subtype.isEmpty && parameters && isJsonSubtype subtype
  | _ => false

end ServiceHealth.Api.MediaType
