import MarkupLint.NameMap
import MarkupLint.Yaml.Token

/-!
# The nodes of YAML

Tokens are put together to scalars, sequences and mappings. An anchor gives
its node a number, which an alias refers to. The number is how many different
names there were before it, so a name that is given twice can share its number
with the next name; the node that got a number last has it.
-/

namespace MarkupLint.Yaml

/-- A node of a document. -/
inductive Node where
  | scalar (text : String) (plain : Bool)
  | sequence (items : List Node)
  | mapping (pairs : List (Node × Node))
  | alias (number : Nat)
deriving Repr, Inhabited

/-- A document put together in part: the tokens that are left; how many marks were passed, one for
a scalar or an alias and two for a collection; the numbers of the anchors; at which mark each
number was given, last first; and the nodes with an anchor, by mark. -/
structure Composition where
  tokens : List Token
  marks : Nat
  numbers : NameMap Nat
  places : List (Nat × Nat)
  anchored : List (Nat × Node)
deriving Repr, Inhabited

/-- Puts a document together, or fails. -/
abbrev Compose := StateT Composition Option

namespace Compose

/-- The next token. -/
def peek : Compose Token := do
  return (← get).tokens.head?.getD .streamEnd

/-- Passes over the next token. -/
def advance : Compose Unit :=
  modify fun state => { state with tokens := state.tokens.drop 1 }

/-- Whether the next token is one of these. -/
def atOneOf (tokens : List Token) : Compose Bool := do
  return tokens.contains (← peek)

/-- Passes over the next token if it is this one; tells whether it was. -/
def accept (token : Token) : Compose Bool := do
  if (← peek) = token then
    advance
    return true
  else return false

/-- Passes a mark; returns how many came before. -/
def mark : Compose Nat := do
  let state ← get
  set { state with marks := state.marks + 1 }
  return state.marks

/-- An empty scalar, where nothing is written. -/
def emptyScalar : Compose Node := do
  let _ ← mark
  return .scalar "" true

/-- The number of an anchor. -/
def numberOf (name : String) : Compose Nat := do
  NameMap.get? (← get).numbers name

/-- Gives the node at a mark the number of a new anchor. -/
def giveNumber (name : String) (place : Nat) : Compose Unit :=
  modify fun state =>
    let number := state.numbers.length
    { state with
      numbers := NameMap.insert name number state.numbers
      places := (number, place) :: state.places }

/-- Keeps the node of an anchor. -/
def keep (place : Nat) (node : Node) : Compose Unit :=
  modify fun state => { state with anchored := (place, node) :: state.anchored }

/-- Reads the name of an anchor, if there is one. -/
def anchorName? : Compose (Option String) := do
  match ← peek with
  | .anchor name => do
      advance
      return some name
  | _ => return none

mutual

/-- Puts a node together. Block collections stand only in block context, and a
sequence without an indentation of its own only in a mapping. Each call reads
a token or ends a collection; the last argument bounds their number. -/
def node (block indentless : Bool) : Nat → Compose Node
  | 0 => failure
  | fuel + 1 => do
      match ← peek with
      | .alias name => do
          advance
          let _ ← mark
          return .alias (← numberOf name)
      | _ => do
          let anchor ← anchorName?
          let place ← mark
          if let some name := anchor then giveNumber name place
          let found ← content block indentless anchor.isSome fuel
          if anchor.isSome then keep place found
          return found

/-- Puts the content of a node together, behind its anchor; with an anchor it may be empty. -/
def content (block indentless anchored : Bool) : Nat → Compose Node
  | 0 => failure
  | fuel + 1 => do
      match ← peek with
      | .scalar text plain => do
          advance
          return .scalar text plain
      | .flowSequenceStart => do
          advance
          return .sequence (← flowItems true fuel)
      | .flowMappingStart => do
          advance
          return .mapping (← flowPairs true fuel)
      | token =>
          if token = .blockEntry ∧ indentless then
            return .sequence (← looseItems fuel)
          else if token = .blockSequenceStart ∧ block then do
            advance
            return .sequence (← blockItems fuel)
          else if token = .blockMappingStart ∧ block then do
            advance
            return .mapping (← blockPairs fuel)
          else if anchored then return .scalar "" true
          else failure

/-- The items of an indented sequence. -/
def blockItems : Nat → Compose (List Node)
  | 0 => failure
  | fuel + 1 => do
      if ← accept .blockEntry then
        let item ←
          if ← atOneOf [.blockEntry, .blockEnd] then emptyScalar else node true false fuel
        return item :: (← blockItems fuel)
      else if ← accept .blockEnd then
        let _ ← mark
        return []
      else failure

/-- The items of a sequence without an indentation of its own. -/
def looseItems : Nat → Compose (List Node)
  | 0 => failure
  | fuel + 1 => do
      if ← accept .blockEntry then
        let item ←
          if ← atOneOf [.blockEntry, .key, .value, .blockEnd] then emptyScalar
          else node true false fuel
        return item :: (← looseItems fuel)
      else
        let _ ← mark
        return []

/-- The pairs of an indented mapping. -/
def blockPairs : Nat → Compose (List (Node × Node))
  | 0 => failure
  | fuel + 1 => do
      if ← accept .key then
        let key ← blockPart fuel
        let value ← if ← accept .value then blockPart fuel else emptyScalar
        return (key, value) :: (← blockPairs fuel)
      else if ← accept .blockEnd then
        let _ ← mark
        return []
      else failure

/-- A key or a value of an indented mapping. -/
def blockPart : Nat → Compose Node
  | 0 => failure
  | fuel + 1 => do
      if ← atOneOf [.key, .value, .blockEnd] then emptyScalar else node true true fuel

/-- The items of a sequence between brackets. -/
def flowItems (first : Bool) : Nat → Compose (List Node)
  | 0 => failure
  | fuel + 1 => do
      if ← accept .flowSequenceEnd then
        let _ ← mark
        return []
      else
        if !first then
          if !(← accept .flowEntry) then failure
        if ← accept .flowSequenceEnd then
          let _ ← mark
          return []
        else
          let item ← if ← accept .key then singlePair fuel else node false false fuel
          return item :: (← flowItems false fuel)

/-- A pair that stands for a mapping of its own between brackets. -/
def singlePair : Nat → Compose Node
  | 0 => failure
  | fuel + 1 => do
      let _ ← mark
      let key ←
        if ← atOneOf [.value, .flowEntry, .flowSequenceEnd] then do
          advance
          emptyScalar
        else node false false fuel
      let value ←
        if ← accept .value then
          if ← atOneOf [.flowEntry, .flowSequenceEnd] then emptyScalar else node false false fuel
        else emptyScalar
      let _ ← mark
      return .mapping [(key, value)]

/-- The pairs of a mapping between braces. -/
def flowPairs (first : Bool) : Nat → Compose (List (Node × Node))
  | 0 => failure
  | fuel + 1 => do
      if ← accept .flowMappingEnd then
        let _ ← mark
        return []
      else
        if !first then
          if !(← accept .flowEntry) then failure
        if ← accept .flowMappingEnd then
          let _ ← mark
          return []
        else if ← accept .key then
          let key ← flowPart fuel
          let value ← if ← accept .value then flowPart fuel else emptyScalar
          return (key, value) :: (← flowPairs false fuel)
        else
          let key ← node false false fuel
          let value ← emptyScalar
          return (key, value) :: (← flowPairs false fuel)

/-- A key or a value of a mapping between braces. -/
def flowPart : Nat → Compose Node
  | 0 => failure
  | fuel + 1 => do
      if ← atOneOf [.value, .flowEntry, .flowMappingEnd] then emptyScalar
      else node false false fuel

end

/-- The root of the only document; nothing if there is no document. -/
def document (fuel : Nat) : Compose (Option Node) := do
  if ← atOneOf [.streamEnd] then return none
  else
    let explicit ← accept .documentStart
    let root ←
      if explicit && (← atOneOf [.documentStart, .documentEnd, .streamEnd]) then emptyScalar
      else node true false fuel
    modify fun state => { state with tokens := state.tokens.dropWhile (· == .documentEnd) }
    if ← atOneOf [.streamEnd] then return some root else failure

end Compose

/-- A document: its root, the number of its marks, and the nodes that aliases
refer to, by number. -/
structure Document where
  root : Option Node
  marks : Nat
  targets : List (Nat × Node)
deriving Repr, Inhabited

/-- Puts tokens together to the only document. -/
def Document.ofTokens? (tokens : List Token) : Option Document := do
  let (root, state) ← (Compose.document (4 * tokens.length + 4)).run ⟨tokens, 0, [], [], []⟩
  let targets := state.places.filterMap fun (number, place) =>
    (state.anchored.lookup place).map fun node => (number, node)
  return ⟨root, state.marks, targets⟩

end MarkupLint.Yaml
