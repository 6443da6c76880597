import ServiceHealth.Yaml.Token

/-!
# Documents

The nodes of a YAML document: scalars, sequences, mappings, and aliases that point to a marked
node. A text holds one document at most. Nodes are built from the list of tokens by descent; what
is left out stands for the empty plain scalar.

An alias may point to a node around it, so it is kept as a number and resolved when it is read.
A mark is the number of anchor names known before it; if a name is used twice, numbers repeat, and
the last node with a number is meant by it.
-/
namespace ServiceHealth.Yaml

/-- A node of a document, with the mark that its anchor gives it. -/
inductive Node where
  | alias (mark : Nat)
  | scalar (mark : Option Nat) (tag : Option Tag) (style : Style) (text : String)
  | sequence (mark : Option Nat) (items : List Node)
  | mapping (mark : Option Nat) (entries : List (Node × Node))
  deriving Inhabited

namespace Node

/-- What stands for a node that is left out. -/
def empty : Node := .scalar none none .plain ""

mutual

/-- The nodes that bear a mark, in the order of the text. -/
def marked (n : Nat) : Node → List Node
  | .alias _ => []
  | .scalar mark tag style text => if mark = some n then [.scalar mark tag style text] else []
  | .sequence mark items =>
      let inner := markedItems n items
      if mark = some n then .sequence mark items :: inner else inner
  | .mapping mark entries =>
      let inner := markedEntries n entries
      if mark = some n then .mapping mark entries :: inner else inner

def markedItems (n : Nat) : List Node → List Node
  | [] => []
  | v :: rest => marked n v ++ markedItems n rest

def markedEntries (n : Nat) : List (Node × Node) → List Node
  | [] => []
  | (k, v) :: rest => marked n k ++ marked n v ++ markedEntries n rest

end

/-- The node that a node of a document stands for: an alias stands for the one it points to. -/
def resolve? (root : Node) : Node → Option Node
  | .alias n => (root.marked n).getLast?
  | v => some v

end Node

/-- What is left of the tokens, with the tag handles and anchor names met so far. -/
structure Outline where
  tokens : List Token
  handles : List (String × Tag)
  names : List (String × Nat)

/-- Builds a part of a document from tokens, if they allow it. -/
abbrev Builder (α : Type) := StateT Outline Option α

namespace Builder

def peek : Builder (Option Token) := return (← get).tokens.head?

def pass : Builder Unit := modify fun o => { o with tokens := o.tokens.tail }

/-- Passes the next token if it is the given one. -/
def passIf (t : Token) : Builder Bool := do
  let found := (← peek) = some t
  if found then pass
  return found

def sees (ts : List Token) : Builder Bool := return ((← peek).map ts.contains).getD false

/-- Gives a name the next number. -/
def nameMark (name : String) : Builder Nat := do
  let o ← get
  let n := o.names.length
  set { o with names := (name, n) :: o.names.filter (·.1 != name) }
  return n

/-- The number that a name stands for. -/
def markOf (name : String) : Builder Nat := do (← get).names.lookup name

/-- A tag in full. An empty handle adds nothing. -/
def fullTag (handle : String) (suffix : Tag) : Builder Tag :=
  if handle = "" then return suffix
  else do return (← (← get).handles.lookup handle).append suffix

def takeTag : Builder (Option Tag) := do
  match ← peek with
  | some (.tag handle suffix) => pass; return some (← fullTag handle suffix)
  | _ => return none

def takeAnchor : Builder (Option Nat) := do
  match ← peek with
  | some (.anchor name) => pass; return some (← nameMark name)
  | _ => return none

/-- Takes an anchor and a tag in either order. -/
def takeProperties : Builder (Option Nat × Option Tag) := do
  match ← takeAnchor with
  | some mark => return (some mark, ← takeTag)
  | none =>
      let tag ← takeTag
      return (← takeAnchor, tag)

mutual

/-- Builds a node. Only inside blocks may it be a block collection, and only as a value of a
mapping may its entries stand in the column of the keys. -/
def node (block unindented : Bool) : Nat → Builder Node
  | 0 => failure
  | fuel + 1 => do
      match ← peek with
      | some (.alias name) => pass; return .alias (← markOf name)
      | _ =>
          let (mark, tag) ← takeProperties
          match ← peek with
          | some .blockEntry =>
              if unindented then return .sequence mark (← unindentedItems fuel)
              else absent mark tag
          | some (.scalar text style) =>
              pass
              return .scalar mark (tag.filter (· != .plain)) style text
          | some .flowSequence => pass; return .sequence mark (← flowItems true fuel)
          | some .flowMapping => pass; return .mapping mark (← flowEntries true fuel)
          | some .blockSequence =>
              if block then pass; return .sequence mark (← blockItems fuel)
              else absent mark tag
          | some .blockMapping =>
              if block then pass; return .mapping mark (← blockEntries fuel)
              else absent mark tag
          | _ => absent mark tag
where
  absent (mark : Option Nat) (tag : Option Tag) : Builder Node :=
    if mark.isSome || tag.isSome then return .scalar mark tag .plain "" else failure

/-- Builds the entries of a block sequence. -/
def blockItems : Nat → Builder (List Node)
  | 0 => failure
  | fuel + 1 => do
      if ← passIf .blockEnd then return []
      else if ← passIf .blockEntry then
        let v ← if ← sees [.blockEntry, .blockEnd] then pure .empty else node true false fuel
        return v :: (← blockItems fuel)
      else failure

/-- Builds the entries of a sequence in the column of the keys around it. -/
def unindentedItems : Nat → Builder (List Node)
  | 0 => failure
  | fuel + 1 => do
      if ← passIf .blockEntry then
        let v ← if ← sees [.blockEntry, .key, .value, .blockEnd] then pure .empty
          else node true false fuel
        return v :: (← unindentedItems fuel)
      else return []

/-- Builds the entries of a block mapping. -/
def blockEntries : Nat → Builder (List (Node × Node))
  | 0 => failure
  | fuel + 1 => do
      if ← passIf .blockEnd then return []
      else if ← passIf .key then
        let k ← blockPart fuel
        let v ← if ← passIf .value then blockPart fuel else pure .empty
        return (k, v) :: (← blockEntries fuel)
      else failure

/-- Builds a key or a value of a block mapping. -/
def blockPart : Nat → Builder Node
  | 0 => failure
  | fuel + 1 => do
      if ← sees [.key, .value, .blockEnd] then return .empty else node true true fuel

/-- Builds the items of a sequence in brackets. An item with a key mark is a mapping of one
entry. -/
def flowItems (first : Bool) : Nat → Builder (List Node)
  | 0 => failure
  | fuel + 1 => do
      if ← passIf .flowSequenceEnd then return []
      else
        if !first then guard (← passIf .flowEntry)
        if ← passIf .flowSequenceEnd then return []
        else if ← passIf .key then
          let k ←
            if ← sees [.value, .flowEntry, .flowSequenceEnd] then do pass; pure .empty
            else node false false fuel
          let v ← flowValue .flowSequenceEnd fuel
          return .mapping none [(k, v)] :: (← flowItems false fuel)
        else
          let v ← node false false fuel
          return v :: (← flowItems false fuel)

/-- Builds the entries of a mapping in braces. -/
def flowEntries (first : Bool) : Nat → Builder (List (Node × Node))
  | 0 => failure
  | fuel + 1 => do
      if ← passIf .flowMappingEnd then return []
      else
        if !first then guard (← passIf .flowEntry)
        if ← passIf .flowMappingEnd then return []
        else if ← passIf .key then
          let k ← if ← sees [.value, .flowEntry, .flowMappingEnd] then pure .empty
            else node false false fuel
          let v ← flowValue .flowMappingEnd fuel
          return (k, v) :: (← flowEntries false fuel)
        else
          let k ← node false false fuel
          return (k, .empty) :: (← flowEntries false fuel)

/-- Builds the value after a key in brackets or braces. -/
def flowValue (closing : Token) : Nat → Builder Node
  | 0 => failure
  | fuel + 1 => do
      if ← passIf .value then
        if ← sees [.flowEntry, closing] then return .empty else node false false fuel
      else return .empty

end

/-- Takes the directives before a document: at most one version, and no tag handle twice. -/
def directives : Nat → Bool → List (String × Tag) → Builder (List (String × Tag))
  | 0, _, _ => failure
  | fuel + 1, versioned, handles => do
      match ← peek with
      | some (.version major minor) =>
          guard (!versioned && major = 1 && (minor = 1 || minor = 2))
          pass
          directives fuel true handles
      | some (.tagDirective handle stem) =>
          guard (handles.lookup handle).isNone
          pass
          directives fuel versioned ((handle, stem) :: handles)
      | _ => return handles

/-- The tag handles that need no directive. -/
def usualHandles : List (String × Tag) := [("!", .plain), ("!!", .common "")]

/-- A token that begins a document or its directives. -/
def isOpening : Token → Bool
  | .version _ _ | .tagDirective _ _ | .documentStart => true
  | _ => false

/-- Builds the root of a document. -/
def root (fuel : Nat) : Builder Node := do
  if ((← peek).map isOpening).getD false then
    let handles ← directives fuel false []
    guard (← passIf .documentStart)
    modify fun o => { o with handles := handles ++ usualHandles }
    let ends := ((← peek).map fun t => isOpening t || t = .documentEnd || t = .streamEnd).getD true
    if ends then return .empty else node true false fuel
  else node true false fuel

end Builder

/-- The document that tokens make up. A text without a document stands for an empty scalar. -/
def Node.ofTokens? (ts : List Token) : Option Node :=
  if ts = [.streamEnd] then some .empty
  else do
    let (root, o) ← (Builder.root (2 * ts.length + 2)).run ⟨ts, Builder.usualHandles, []⟩
    guard (o.tokens.dropWhile (· = .documentEnd) = [.streamEnd])
    return root

def Node.ofText? (s : String) : Option Node := do Node.ofTokens? (← Token.ofText? s)

end ServiceHealth.Yaml
