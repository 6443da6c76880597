import ServiceHealth.Error
import ServiceHealth.Text.Basic

/-!
# Probe headers

Headers for HTTP probes are configured as entries `Name=Value`. An entry is split at its first
equals sign and both parts are trimmed; neither may be empty. Whether name and value may stand in
a request is checked later, when a prober is built.
-/
namespace ServiceHealth.Probe

structure Header where
  name : String
  value : String
  deriving DecidableEq, Repr

namespace Header

/-- Reads an entry `Name=Value`. -/
def ofEntry (entry : String) : Except Error Header :=
  match entry.toList.span (· != '=') with
  | (name, _ :: value) =>
      let name := Text.trimChars name
      let value := Text.trimChars value
      if name.isEmpty || value.isEmpty then .error (.config (.headerPartEmpty entry))
      else .ok ⟨String.ofList name, String.ofList value⟩
  | (_, []) => .error (.config (.headerWithoutSeparator entry))

/-- Reads entries up to the first wrong one. -/
def ofEntries (entries : List String) : Except Error (List Header) :=
  entries.mapM ofEntry

/-- Punctuation that may stand in a token. -/
def tokenMarks : List Char :=
  ['!', '#', '$', '%', '&', '\x27', '*', '+', '-', '.', '^', '_', '\x60', '|', '~']

/-- May stand in a token, such as the name of a header or of a method. -/
def isTokenChar (c : Char) : Bool :=
  c.isAlphanum || tokenMarks.contains c

/-- A token of at most 65535 characters. -/
def isName (s : String) : Bool :=
  !s.isEmpty && s.length ≤ 65535 && s.toList.all isTokenChar

/-- May stand in the value of a header: anything but controls, the tab excepted. -/
def isValueChar (c : Char) : Bool :=
  c = '\t' || (0x20 ≤ c.toNat && c.toNat != 0x7F)

def check (h : Header) : Except Error Unit :=
  if !isName h.name then .error (.config (.headerNameInvalid h.name))
  else if !h.value.toList.all isValueChar then
    .error (.config (.headerValueInvalid (Text.lowerAscii h.name)))
  else .ok ()

/-- Checks headers up to the first wrong one. -/
def checkAll (headers : List Header) : Except Error Unit :=
  headers.forM check

end Header

end ServiceHealth.Probe
