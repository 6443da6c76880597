import ServiceHealth.Net.Host
import ServiceHealth.Net.Uri

/-!
# URLs

URLs of the schemes `http` and `https` as browsers read them: blanks around them and line ends in
them do not count, a backslash is a slash, dots in the path are resolved, and characters that may
not stand in a URL are written as percent escapes.
-/
namespace ServiceHealth.Net

/-- The name and the password of a user, with percent escapes. -/
structure Credentials where
  user : String
  password : Option String
  deriving DecidableEq, Repr

namespace Credentials

/-- The written form, with the sign that ends it. -/
def text (c : Credentials) : String :=
  c.user ++ (match c.password with
    | some p => ":" ++ p
    | none => "") ++ "@"

/-- The escapes of the name encode text, and if it is empty, so do those of a password. -/
def areReadable (c : Credentials) : Bool :=
  match Text.percentDecode? c.user.toList with
  | some user =>
      !user.isEmpty || (c.password.bind fun p => Text.percentDecode? p.toList).isSome
  | none => false

end Credentials

/-- A URL. The path begins with a slash; path, query and fragment are in their written form. The
usual port is left out. -/
structure Url where
  secure : Bool
  credentials : Option Credentials
  host : Host
  port : Option UInt16
  path : String
  query : Option String
  fragment : Option String
  deriving DecidableEq, Repr

namespace Url

def upperHex (n : Nat) : Char := (Nat.digitChar n).toUpper

def escapeByte (b : UInt8) : List Char := ['%', upperHex (b.toNat / 16), upperHex (b.toNat % 16)]

/-- Writes controls, characters outside ASCII and some more as percent escapes. -/
def escape (marks : List Char) (cs : List Char) : List Char :=
  cs.flatMap fun c =>
    if c.toNat < 0x20 || 0x7F ≤ c.toNat || marks.contains c then
      (String.utf8EncodeChar c).flatMap escapeByte
    else [c]

/-- What is escaped in a fragment besides. -/
def fragmentMarks : List Char := " \"<>\x60".toList

def pathMarks : List Char := fragmentMarks ++ ['#', '?', '\x7b', '\x7d']

def queryMarks : List Char := " \"#<>\x27".toList

def userMarks : List Char := pathMarks ++ "/:;=@[\\]^|".toList

def isSlash (c : Char) : Bool := c = '/' || c = '\\'

def isAuthorityEnd (c : Char) : Bool := isSlash c || c = '?' || c = '#'

/-- What follows the last at sign. -/
def dropUser (cs : List Char) : List Char :=
  (cs.reverse.takeWhile (· != '@')).reverse

/-- What precedes the last at sign, if there is one. -/
def takeUser (cs : List Char) : List Char := cs.take (cs.length - (dropUser cs).length - 1)

/-- The name before the first colon and the password after it. Nothing is the same as no name, and
no password if it follows a colon. -/
def credentials? (cs : List Char) : Option Credentials :=
  let (user, rest) := cs.span (· != ':')
  let password := rest.drop 1
  if user.isEmpty && password.isEmpty then none
  else
    let written (part : List Char) : String := String.ofList (escape userMarks part)
    some ⟨written user, if password.isEmpty then none else some (written password)⟩

/-- The host at the front of an authority: what precedes the first colon outside brackets. -/
def hostPart (inside : Bool) : List Char → List Char
  | [] => []
  | c :: rest =>
      if c = ':' && !inside then []
      else c :: hostPart (if c = '[' then true else if c = ']' then false else inside) rest

/-- The port after a host; there may be none, or only its colon. -/
def port? (secure : Bool) : List Char → Option (Option UInt16)
  | [] => some none
  | _ :: [] => some none
  | _ :: digits => do
      let (n, rest) ← readNumber 10 0xFFFF digits
      guard rest.isEmpty
      return if n = (if secure then 443 else 80) then none else some n.toUInt16

def segments (cs : List Char) : List (List Char) := Text.pieces isSlash cs

/-- A segment with escaped points written out. -/
def plainDots : List Char → List Char
  | '%' :: '2' :: 'e' :: rest => '.' :: plainDots rest
  | '%' :: '2' :: 'E' :: rest => '.' :: plainDots rest
  | c :: rest => c :: plainDots rest
  | [] => []

/-- A segment that names a drive: a letter with a colon or a bar. -/
def isDrive : List Char → Bool
  | [letter, mark] => letter.isAlpha && (mark = ':' || mark = '|')
  | _ => false

/-- Takes back the last segment, which comes first here, unless it names a drive. -/
def parent : List (List Char) → List (List Char)
  | s :: rest => if isDrive s then s :: rest else rest
  | [] => []

/-- Resolves segments of points. `before` are the segments so far, the last one first. -/
def resolveDots (before : List (List Char)) : List (List Char) → List (List Char)
  | [] => before.reverse
  | s :: rest =>
      let before :=
        if plainDots s = ['.', '.'] then parent before
        else if plainDots s = ['.'] then before
        else s :: before
      let isDots := plainDots s = ['.', '.'] || plainDots s = ['.']
      resolveDots (if rest.isEmpty && isDots then [] :: before else before) rest

def pathText (cs : List Char) : String :=
  let cs := match cs with
    | c :: rest => if isSlash c then rest else cs
    | [] => []
  let written := (resolveDots [] (segments cs)).map (escape pathMarks)
  String.ofList ('/' :: ['/'].intercalate written)

/-- A query with its mark, and what follows it. -/
def takeQuery : List Char → Option String × List Char
  | '?' :: rest =>
      let (query, rest) := rest.span (· != '#')
      (some (String.ofList (escape queryMarks query)), rest)
  | rest => (none, rest)

def takeFragment : List Char → Option String
  | '#' :: rest => some (String.ofList (escape fragmentMarks rest))
  | _ => none

/-- A control or a space. -/
def isOuterBlank (c : Char) : Bool := c.toNat ≤ 0x20

/-- What is read of a text. -/
def relevant (s : String) : List Char :=
  let cs := (s.toList.dropWhile isOuterBlank).reverse.dropWhile isOuterBlank
  cs.reverse.filter fun c => c != '\t' && c != '\n' && c != '\r'

/-- Reads what follows the colon of the scheme. -/
def ofRest? (secure : Bool) (rest : List Char) : Option Url := do
  let (authority, rest) := (rest.dropWhile isSlash).span fun c => !isAuthorityEnd c
  let credentials := credentials? (takeUser authority)
  let authority := dropUser authority
  let written := hostPart false authority
  let host ← Host.ofChars? written
  let port ← port? secure (authority.drop written.length)
  let (path, rest) := rest.span fun c => c != '?' && c != '#'
  let (query, rest) := takeQuery rest
  return ⟨secure, credentials, host, port, pathText path, query, takeFragment rest⟩

def ofText? (s : String) : Option Url :=
  match (relevant s).span (· != ':') with
  | (scheme, _ :: rest) =>
      let scheme := scheme.map Char.toLower
      if scheme = "http".toList then ofRest? false rest
      else if scheme = "https".toList then ofRest? true rest
      else none
  | (_, []) => none

def text (u : Url) : String :=
  (if u.secure then "https://" else "http://") ++ ((u.credentials.map Credentials.text).getD "") ++
    u.host.text ++
    (match u.port with
      | some n => ":" ++ toString n.toNat
      | none => "") ++
    u.path ++
    (match u.query with
      | some q => "?" ++ q
      | none => "") ++
    (match u.fragment with
      | some f => "#" ++ f
      | none => "")

/-- The URL that a request names: it carries readable credentials apart from it. -/
def withoutCredentials (u : Url) : Url :=
  { u with credentials := u.credentials.filter (!·.areReadable) }

/-- The written form may stand in a request. -/
def isTarget (u : Url) : Bool := (Uri.path? u.text).isSome

end Url

end ServiceHealth.Net
