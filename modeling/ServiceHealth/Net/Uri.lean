import ServiceHealth.Text.Utf8

/-!
# Request targets

What a request line may name: a path with a query, an absolute URI, an authority or an asterisk.
Only the path matters for routing. The query and the fragment are dropped; an authority has an
empty path and an absolute URI without a path has the path `/`.
-/
namespace ServiceHealth.Net

namespace Uri

/-- The longest target, in bytes. -/
def maxLength : Nat := 65534

def isPathChar (c : Char) : Bool :=
  let n := c.toNat
  n = 0x21 || (0x24 ≤ n && n ≤ 0x3B) || n = 0x3D || (0x40 ≤ n && n ≤ 0x5F) ||
    (0x61 ≤ n && n ≤ 0x7E) || 0x80 ≤ n || c = '"'

def isQueryChar (c : Char) : Bool :=
  let n := c.toNat
  n = 0x21 || (0x24 ≤ n && n ≤ 0x3B) || n = 0x3D || (0x3F ≤ n && n ≤ 0x7E) || 0x80 ≤ n

/-- A query up to a fragment, which may hold anything. -/
def isQuery (cs : List Char) : Bool := (cs.takeWhile (· != '#')).all isQueryChar

/-- The path before a query or a fragment. -/
def pathBefore? : List Char → Option (List Char)
  | [] => some []
  | '?' :: rest => if isQuery rest then some [] else none
  | '#' :: _ => some []
  | c :: rest => if isPathChar c then (pathBefore? rest).map (c :: ·) else none

def isAuthorityChar (c : Char) : Bool :=
  c.isAlphanum || "!$&'()*+,-.:;=@[]_~".toList.contains c

/-- What has been seen of an authority. -/
structure Scan where
  colons : Nat
  opened : Bool
  closed : Bool
  percent : Bool
  atEnd : Bool

/-- Takes one character of an authority into account. The colons and percent signs of user
information and of an address in brackets do not count. -/
def Scan.take? (s : Scan) (c : Char) : Option Scan :=
  let s := { s with atEnd := c = '@' }
  if c = ':' then if s.colons ≥ 8 then none else some { s with colons := s.colons + 1 }
  else if c = '[' then if s.percent || s.opened then none else some { s with opened := true }
  else if c = ']' then
    if !s.opened || s.closed then none
    else some { s with closed := true, colons := 0, percent := false }
  else if c = '@' then some { s with colons := 0, percent := false }
  else if c = '%' then some { s with percent := true }
  else if isAuthorityChar c then some s
  else none

def Scan.isProper (s : Scan) : Bool :=
  s.opened = s.closed && s.colons ≤ 1 && !s.atEnd && !s.percent

/-- An authority: a host, perhaps with user information and a port. -/
def isAuthority (cs : List Char) : Bool :=
  match cs.foldlM Scan.take? ⟨0, false, false, false, false⟩ with
  | some s => s.isProper
  | none => false

def isSchemeChar (c : Char) : Bool :=
  c.isAlphanum || c = '+' || c = '-' || c = '.' || c = '~'

/-- What a target begins with: no scheme, or one and what follows its slashes. -/
inductive Scheme where
  | absent
  | tooLong
  | present (rest : List Char)

/-- Splits a scheme off a target of at least four bytes. -/
def splitScheme (cs : List Char) : Scheme :=
  match cs.span isSchemeChar with
  | (scheme, ':' :: '/' :: '/' :: rest) =>
      if cs.length ≤ 3 then .absent
      else if 64 < scheme.length then .tooLong
      else .present rest
  | _ => .absent

def isAuthorityEnd (c : Char) : Bool := c = '/' || c = '?' || c = '#'

/-- The path of an absolute URI, after its scheme. -/
def absolutePath? (cs : List Char) : Option (List Char) :=
  let (authority, rest) := cs.span fun c => !isAuthorityEnd c
  if authority.isEmpty || !isAuthority authority then none
  else (pathBefore? rest).map fun path => if path.isEmpty then ['/'] else path

/-- The path of a target, unless the target is none. -/
def path? (target : String) : Option (List Char) :=
  let cs := target.toList
  if cs.isEmpty || maxLength < Text.byteLength cs then none
  else if cs = ['*'] then some cs
  else if cs.head? = some '/' then pathBefore? cs
  else
    match splitScheme cs with
    | .tooLong => none
    | .present rest => absolutePath? rest
    | .absent => if isAuthority cs && !cs.any isAuthorityEnd then some [] else none

end Uri

end ServiceHealth.Net
