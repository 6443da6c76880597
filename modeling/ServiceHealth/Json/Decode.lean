import ServiceHealth.Json.Printer
import ServiceHealth.Json.Reader

/-!
# Typed values from JSON

A decoder takes a value of the tree and returns a typed one or the first fault, in the order of
the text. A fault is either of grammar or of content; one of content knows the way to the value
it is about.

A record is described by its fields. It is read from an object, whose members may stand in any
order, or from an array in the order of declaration. Unknown members are passed over, as long as
they are JSON; a known member may occur once.
-/
namespace ServiceHealth.Json

/-- What was found where something else was expected. -/
inductive Found where
  | null
  | bool (b : Bool)
  | number (n : Number)
  | text (s : String)
  | sequence
  | map

/-- How messages name what was found. -/
def Found.toText : Found → String
  | .null => "null"
  | .bool b => "boolean `" ++ (if b then "true" else "false") ++ "`"
  | .number (.real x) => "floating point `" ++ Decimal.messageText x ++ "`"
  | .number n => "integer `" ++ n.toText ++ "`"
  | .text s => "string " ++ Text.quote s
  | .sequence => "sequence"
  | .map => "map"

/-- The sort of a value, unless it is no proper value. -/
def found? : Json → Option Found
  | .null => some .null
  | .bool b => some (.bool b)
  | .number n => n.map .number
  | .text s => s.map .text
  | .array _ => some .sequence
  | .object _ => some .map
  | .broken => none

/-- One step from a value to a value inside it. -/
inductive Step where
  | member (name : String)
  | item (index : Nat)
  deriving DecidableEq, Repr

/-- What is wrong with a value. -/
inductive Cause where
  | wrongType (found : Found) (expected : String)
  | wrongValue (found : Found) (expected : String)
  | missingField (name : String)
  | duplicateField (name : String)
  | unknownVariant (name : String) (known : List String)
  | wrongLength (length : Nat) (title : String) (fields : Nat)
  | refused (reason : String)

/-- A name between backticks. -/
def ticked (name : String) : String := "`" ++ name ++ "`"

/-- The choice that an unknown name fell outside of. -/
def choiceText : List String → String
  | [] => "there are no variants"
  | [a] => "expected " ++ ticked a
  | [a, b] => "expected " ++ ticked a ++ " or " ++ ticked b
  | names => "expected one of " ++ ", ".intercalate (names.map ticked)

def Cause.message : Cause → String
  | .wrongType found expected => "invalid type: " ++ found.toText ++ ", expected " ++ expected
  | .wrongValue found expected => "invalid value: " ++ found.toText ++ ", expected " ++ expected
  | .missingField name => "missing field " ++ ticked name
  | .duplicateField name => "duplicate field " ++ ticked name
  | .unknownVariant name known => "unknown variant " ++ ticked name ++ ", " ++ choiceText known
  | .wrongLength length title fields =>
      "invalid length " ++ toString length ++ ", expected " ++ title ++ " with " ++
        toString fields ++ (if fields = 1 then " element" else " elements")
  | .refused reason => reason

/-- Why a text was not decoded. -/
inductive Fault where
  | malformed
  | content (path : List Step) (cause : Cause)

/-- The written form of a way into a value, `a.b[0].c`. -/
def pathText : List Step → String
  | [] => ""
  | .item i :: rest => "[" ++ toString i ++ "]" ++ continued rest
  | .member name :: rest => name ++ continued rest
where
  continued : List Step → String
    | [] => ""
    | .item i :: rest => "[" ++ toString i ++ "]" ++ continued rest
    | .member name :: rest => "." ++ name ++ continued rest

/-- Reads a typed value. -/
abbrev Decoder (α : Type) := Json → Except Fault α

/-- Reports faults of a value as seen from the value around it. -/
def within {α : Type} (step : Step) : Except Fault α → Except Fault α
  | .error (.content path cause) => .error (.content (step :: path) cause)
  | result => result

/-- A fault of content at the value itself. -/
def fault {α : Type} (cause : Cause) : Except Fault α := .error (.content [] cause)

def wrongType {α : Type} (v : Json) (expected : String) : Except Fault α :=
  match v.found? with
  | some found => fault (.wrongType found expected)
  | none => .error .malformed

namespace Decoder

def text : Decoder String
  | .text (some s) => .ok s
  | v => wrongType v "a string"

def bool : Decoder Bool
  | .bool b => .ok b
  | v => wrongType v "a boolean"

/-- A whole number from zero to a limit. -/
def natural (limit : Nat) (expected : String) : Decoder Nat
  | .number (some (.natural n)) =>
      if n ≤ limit then .ok n else fault (.wrongValue (.number (.natural n)) expected)
  | .number (some (.negative n)) => fault (.wrongValue (.number (.negative n)) expected)
  | v => wrongType v expected

/-- Only `null`. -/
def unit : Decoder Unit
  | .null => .ok ()
  | v => wrongType v "unit"

def uint16 : Decoder UInt16 := fun v => (natural 0xFFFF "u16" v).map Nat.toUInt16

def uint32 : Decoder UInt32 := fun v => (natural 0xFFFFFFFF "u32" v).map Nat.toUInt32

def uint64 : Decoder UInt64 :=
  fun v => (natural 0xFFFFFFFFFFFFFFFF "u64" v).map Nat.toUInt64

def count : Decoder Nat := natural 0xFFFFFFFFFFFFFFFF "usize"

/-- `null` or a value. -/
def nullable {α : Type} (d : Decoder α) : Decoder (Option α)
  | .null => .ok none
  | v => (d v).map some

/-- The items of an array, counted from `index`. -/
def itemsFrom {α : Type} (d : Decoder α) (index : Nat) : List Json → Except Fault (List α)
  | [] => .ok []
  | v :: rest => do
      let a ← within (.item index) (d v)
      return a :: (← itemsFrom d (index + 1) rest)

def list {α : Type} (d : Decoder α) : Decoder (List α)
  | .array items => itemsFrom d 0 items
  | v => wrongType v "a sequence"

/-- The members of an object, each under its name. -/
def membersOf {α : Type} (d : Decoder α) : List (Option String × Json) →
    Except Fault (List (String × α))
  | [] => .ok []
  | (some name, v) :: rest => do
      let a ← within (.member name) (d v)
      return (name, a) :: (← membersOf d rest)
  | _ => .error .malformed

/-- An object with any names. Members with equal names are all returned. -/
def map {α : Type} (d : Decoder α) : Decoder (List (String × α))
  | .object members => membersOf d members
  | v => wrongType v "a map"

/-- One of several names, written as a string or as the only name of an object with the value
`null`. -/
def variant {α : Type} (known : List (String × α)) : Decoder α
  | .text (some name) => choose name
  | .object ((some name, v) :: rest) => do
      let a ← choose name
      within (.member name) (unit v)
      if rest.isEmpty then .ok a else .error .malformed
  | _ => .error .malformed
where
  choose (name : String) : Except Fault α :=
    match known.lookup name with
    | some a => .ok a
    | none => fault (.unknownVariant name (known.map Prod.fst))

end Decoder

/-- What reading a record needs to know of one field. An array may end before a trailing one. -/
structure Field where
  name : String
  check : Json → Except Fault Unit
  trailing : Bool

/-- How a record is read: its fields in the order of declaration, and how the record is built from
the values found for them. -/
structure Record (α : Type) where
  fields : List Field
  build : (String → Option Json) → Except Fault α

namespace Record

instance : Functor Record where
  map f r := ⟨r.fields, fun values => f <$> r.build values⟩

instance : Applicative Record where
  pure a := ⟨[], fun _ => .ok a⟩
  seq r s := ⟨r.fields ++ (s ()).fields, fun values => r.build values <*> (s ()).build values⟩

variable {α : Type}

/-- A field described by its decoder and the value that stands in for a missing member. -/
def field (name : String) (d : Decoder α) (trailing : Bool) (missing : Except Fault α) :
    Record α where
  fields := [⟨name, fun v => (d v).map fun _ => (), trailing⟩]
  build values :=
    match values name with
    | some v => d v
    | none => missing

def required (name : String) (d : Decoder α) : Record α :=
  field name d false (fault (.missingField name))

/-- A field that may be missing from an object, but not from an array. -/
def optional (name : String) (d : Decoder α) : Record (Option α) :=
  field name d.nullable false (.ok none)

/-- A field that may be missing. -/
def defaulted (name : String) (d : Decoder α) (a : α) : Record α :=
  field name d true (.ok a)

/-- Checks the members of an object in the order of the text and keeps the known ones. -/
def collect (fields : List Field) :
    List (String × Json) → List (Option String × Json) → Except Fault (List (String × Json))
  | seen, [] => .ok seen
  | seen, (some name, v) :: rest =>
      match fields.find? (·.name = name) with
      | some f =>
          if (seen.lookup name).isSome then fault (.duplicateField name)
          else do
            within (.member name) (f.check v)
            collect fields ((name, v) :: seen) rest
      | none => if v.isWhole then collect fields seen rest else .error .malformed
  | _, _ => .error .malformed

/-- Checks the items of an array, one for each field. -/
def collectItems (title : String) (size : Nat) :
    List Field → Nat → List Json → Except Fault (List (String × Json))
  | [], _, [] => .ok []
  | [], _, _ :: _ => .error .malformed
  | f :: fields, index, [] =>
      if f.trailing then collectItems title size fields (index + 1) []
      else fault (.wrongLength index title size)
  | f :: fields, index, v :: rest => do
      within (.item index) (f.check v)
      return (f.name, v) :: (← collectItems title size fields (index + 1) rest)

def decoder (r : Record α) (title : String) : Decoder α
  | .object members => do
      let values ← collect r.fields [] members
      r.build fun name => values.lookup name
  | .array items => do
      let values ← collectItems title r.fields.length r.fields 0 items
      r.build fun name => values.lookup name
  | v => wrongType v title

end Record

/-- Decodes a text that holds one value and nothing else. -/
def decode {α : Type} (d : Decoder α) (s : Input) : Except Fault α := do
  let (v, rest) := read s
  let a ← d v
  match rest with
  | some rest => if rest.all isBlank then .ok a else .error .malformed
  | none => .error .malformed

/-- Decodes the value at the front of a text, whatever follows it. -/
def decodeFirst {α : Type} (d : Decoder α) (s : Input) : Except Fault α :=
  d (read s).1

end ServiceHealth.Json
