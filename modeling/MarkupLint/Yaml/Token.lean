import MarkupLint.Yaml.ScalarText

/-!
# The tokens of YAML

A text is cut into tokens. Indentation is shown by tokens of its own: one where a block collection
starts, one where it ends. A key is recognised only by the colon behind it, so the place of
everything that could be a key is remembered, and the tokens in front of it are put in later.
-/

namespace MarkupLint.Yaml

/-- A token of YAML text. -/
inductive Token where
  | documentStart
  | documentEnd
  | streamEnd
  | blockSequenceStart
  | blockMappingStart
  | blockEnd
  | blockEntry
  | flowSequenceStart
  | flowSequenceEnd
  | flowMappingStart
  | flowMappingEnd
  | flowEntry
  | key
  | value
  | alias (name : String)
  | anchor (name : String)
  | scalar (text : String) (plain : Bool)
deriving DecidableEq, Repr, Inhabited

/-- Something that is a key if a colon follows: the number of tokens before it, and its place.
Where nothing else can stand, it has to be a key. -/
structure PossibleKey where
  tokenCount : Nat
  place : Place
  required : Bool
deriving Repr, Inhabited

/-- A text cut in part. The possible keys stand one for each open flow collection and one for the
block around them, innermost first. -/
structure Scanner where
  input : Input
  tokens : Array Token
  flowLevel : Nat
  indent : Int
  outerIndents : List Int
  keyAllowed : Bool
  keys : List (Option PossibleKey)
deriving Repr, Inhabited

namespace Scanner

/-- Nothing cut yet. -/
def ofInput (input : Input) : Scanner :=
  ⟨input, #[], 0, -1, [], true, [none]⟩

/-- Whether a flow collection is open. -/
def inFlow (scanner : Scanner) : Bool :=
  0 < scanner.flowLevel

/-- Adds a token at the end. -/
def push (scanner : Scanner) (token : Token) : Scanner :=
  { scanner with tokens := scanner.tokens.push token }

/-- Adds a token behind the first `count` ones. -/
def insertAt (scanner : Scanner) (count : Nat) (token : Token) : Scanner :=
  let front := scanner.tokens.extract 0 count
  let back := scanner.tokens.extract count scanner.tokens.size
  { scanner with tokens := front.push token ++ back }

/-- Passes over `count` characters. -/
def skip (scanner : Scanner) (count : Nat) : Scanner :=
  { scanner with input := scanner.input.skip count }

/-- Sets whether a key may stand next. -/
def allowKey (scanner : Scanner) (allowed : Bool) : Scanner :=
  { scanner with keyAllowed := allowed }

/-- Passes over blanks, comments and line ends. Outside flow collections a key may stand on a new
line, and no tab may stand where a key may. -/
def skipBlanksFrom (inFlow allowed inComment : Bool) (place : Place) : List Char → Input × Bool
  | [] => (⟨place, []⟩, allowed)
  | c :: rest =>
      let next := place.advance c
      if isBreak c then skipBlanksFrom inFlow (allowed || !inFlow) false next rest
      else if inComment then skipBlanksFrom inFlow allowed true next rest
      else if c = '#' then skipBlanksFrom inFlow allowed true next rest
      else if c = ' ' ∨ (c = '\t' ∧ (inFlow ∨ !allowed)) ∨ (c = '\ufeff' ∧ place.column = 0) then
        skipBlanksFrom inFlow allowed false next rest
      else (⟨place, c :: rest⟩, allowed)

/-- Passes over blanks, comments and line ends. -/
def skipBlanks (scanner : Scanner) : Scanner :=
  let (input, allowed) :=
    skipBlanksFrom scanner.inFlow scanner.keyAllowed false scanner.input.place scanner.input.rest
  { scanner with input := input, keyAllowed := allowed }

/-- Gives up a possible key; a required one cannot be given up. -/
def giveUp : Option PossibleKey → Option (Option PossibleKey)
  | some key => if key.required then none else some none
  | none => some none

/-- Gives up the possible keys that are on an earlier line or too far back. -/
def dropStaleKeys (scanner : Scanner) : Option Scanner := do
  let here := scanner.input.place
  let keys ← scanner.keys.mapM fun possible =>
    match possible with
    | some key =>
        if key.place.line < here.line ∨ key.place.index + 1024 < here.index then giveUp (some key)
        else some (some key)
    | none => some none
  return { scanner with keys := keys }

/-- Gives up the innermost possible key. -/
def removeKey (scanner : Scanner) : Option Scanner :=
  match scanner.keys with
  | key :: outer => (giveUp key).map fun kept => { scanner with keys := kept :: outer }
  | [] => some scanner

/-- Remembers the present place as a possible key, if a key may stand here. -/
def saveKey (scanner : Scanner) : Option Scanner :=
  if scanner.keyAllowed then do
    let cleared ← scanner.removeKey
    let place := scanner.input.place
    let required := !scanner.inFlow && scanner.indent == (place.column : Int)
    return { cleared with
      keys := some ⟨scanner.tokens.size, place, required⟩ :: cleared.keys.drop 1 }
  else some scanner

/-- Ends the block collections that are indented more than `column`. -/
def unindent (scanner : Scanner) (column : Int) : Scanner :=
  if scanner.inFlow then scanner
  else
    let ended := (scanner.indent :: scanner.outerIndents).takeWhile (column < ·)
    let others := (scanner.indent :: scanner.outerIndents).drop ended.length
    { scanner with
      tokens := scanner.tokens ++ (ended.map fun _ => Token.blockEnd).toArray
      indent := others.head?.getD (-1)
      outerIndents := others.drop 1 }

/-- Starts a block collection at a column, if it is indented more than the present one; its first
token goes behind the first `count` tokens. -/
def indentAt (scanner : Scanner) (column : Nat) (count : Nat) (token : Token) : Scanner :=
  if !scanner.inFlow && scanner.indent < (column : Int) then
    { scanner.insertAt count token with
      indent := column
      outerIndents := scanner.indent :: scanner.outerIndents }
  else scanner

/-- Takes the end of the text. -/
def takeEnd (scanner : Scanner) : Option Scanner := do
  let cleared ← (scanner.unindent (-1)).removeKey
  return (cleared.allowKey false).push .streamEnd

/-- Takes a mark that begins or ends a document. -/
def takeMark (scanner : Scanner) (token : Token) : Option Scanner := do
  let cleared ← (scanner.unindent (-1)).removeKey
  return ((cleared.allowKey false).skip 3).push token

/-- Takes the start of a flow collection. -/
def takeFlowStart (scanner : Scanner) (token : Token) : Option Scanner := do
  let saved ← scanner.saveKey
  let opened := { saved with flowLevel := saved.flowLevel + 1, keys := none :: saved.keys }
  return ((opened.allowKey true).skip 1).push token

/-- Takes the end of a flow collection. -/
def takeFlowEnd (scanner : Scanner) (token : Token) : Option Scanner := do
  let cleared ← scanner.removeKey
  let closed :=
    if cleared.inFlow then
      { cleared with flowLevel := cleared.flowLevel - 1, keys := cleared.keys.drop 1 }
    else cleared
  return ((closed.allowKey false).skip 1).push token

/-- Takes a comma of a flow collection. -/
def takeFlowEntry (scanner : Scanner) : Option Scanner := do
  let cleared ← scanner.removeKey
  return ((cleared.allowKey true).skip 1).push .flowEntry

/-- Takes a hyphen in front of an item. -/
def takeBlockEntry (scanner : Scanner) : Option Scanner := do
  if !scanner.inFlow && !scanner.keyAllowed then none
  else
    let started :=
      scanner.indentAt scanner.input.place.column scanner.tokens.size .blockSequenceStart
    let cleared ← started.removeKey
    return ((cleared.allowKey true).skip 1).push .blockEntry

/-- Takes a question mark in front of a key. -/
def takeKey (scanner : Scanner) : Option Scanner := do
  if !scanner.inFlow && !scanner.keyAllowed then none
  else
    let started :=
      scanner.indentAt scanner.input.place.column scanner.tokens.size .blockMappingStart
    let cleared ← started.removeKey
    return ((cleared.allowKey (!cleared.inFlow)).skip 1).push .key

/-- Takes a colon in front of a value. If something before it can be a key, it is one. -/
def takeValue (scanner : Scanner) : Option Scanner :=
  match scanner.keys with
  | some key :: outer =>
      let marked := { scanner.insertAt key.tokenCount .key with keys := none :: outer }
      let started := marked.indentAt key.place.column key.tokenCount .blockMappingStart
      some (((started.allowKey false).skip 1).push .value)
  | _ =>
      if !scanner.inFlow && !scanner.keyAllowed then none
      else
        let started :=
          scanner.indentAt scanner.input.place.column scanner.tokens.size .blockMappingStart
        some (((started.allowKey (!started.inFlow)).skip 1).push .value)

/-- Whether a character can stand in the name of an anchor. -/
def isAnchorChar (c : Char) : Bool :=
  c.isAlphanum || c == '_' || c == '-'

/-- Whether the name of an anchor can end in front of `chars`. -/
def endsAnchor (chars : List Char) : Bool :=
  endsWord chars || (chars.head?.map fun c => "?:,]\x7d%@\x60".toList.contains c).getD false

/-- Takes an anchor, or an alias of one. -/
def takeAnchor (scanner : Scanner) (token : String → Token) : Option Scanner := do
  let saved ← scanner.saveKey
  let (name, rest) := (saved.input.skip 1).splitWhile isAnchorChar
  if name.isEmpty || !endsAnchor rest.rest then none
  else return ({ saved with input := rest }.allowKey false).push (token (String.ofList name))

/-- Takes a block scalar. -/
def takeBlock (scanner : Scanner) : Option Scanner := do
  let cleared ← scanner.removeKey
  let read ← readBlock cleared.indent cleared.input
  return ({ cleared with input := read.rest }.allowKey true).push
    (.scalar (String.ofList read.text) false)

/-- Takes a scalar between quotes. -/
def takeQuoted (scanner : Scanner) : Option Scanner := do
  let saved ← scanner.saveKey
  let read ← readQuoted saved.input
  return ({ saved with input := read.rest }.allowKey false).push
    (.scalar (String.ofList read.text) false)

/-- Takes a plain scalar. -/
def takePlain (scanner : Scanner) : Option Scanner := do
  let saved ← scanner.saveKey
  let read ← readPlain saved.inFlow (saved.indent + 1) saved.input
  return ({ saved with input := read.rest }.allowKey read.lineEnded).push
    (.scalar (String.ofList read.text) true)

/-- Whether a plain scalar can start with the character `c`, which `rest` follows. -/
def startsPlain (inFlow : Bool) (c : Char) (rest : List Char) : Bool :=
  !(isBlank c || "-?:,[]\x7b\x7d#&*!|>\x27\"%@\x60".toList.contains c) ||
    (c == '-' && !(rest.head?.map isBlank).getD false) ||
    (!inFlow && (c == '?' || c == ':') && !endsWord rest)

/-- Takes the token that starts with the character `c`, which `rest` follows. -/
def takeAt (scanner : Scanner) (c : Char) (rest : List Char) : Option Scanner :=
  if scanner.input.atMark '-' then scanner.takeMark .documentStart
  else if scanner.input.atMark '.' then scanner.takeMark .documentEnd
  else if c = '%' ∧ scanner.input.place.column = 0 then none
  else if c = '[' then scanner.takeFlowStart .flowSequenceStart
  else if c = '\x7b' then scanner.takeFlowStart .flowMappingStart
  else if c = ']' then scanner.takeFlowEnd .flowSequenceEnd
  else if c = '\x7d' then scanner.takeFlowEnd .flowMappingEnd
  else if c = ',' then scanner.takeFlowEntry
  else if c = '-' ∧ endsWord rest then scanner.takeBlockEntry
  else if c = '?' ∧ (scanner.inFlow ∨ endsWord rest) then scanner.takeKey
  else if c = ':' ∧ (scanner.inFlow ∨ endsWord rest) then scanner.takeValue
  else if c = '*' then scanner.takeAnchor .alias
  else if c = '&' then scanner.takeAnchor .anchor
  else if (c = '|' ∨ c = '>') ∧ !scanner.inFlow then scanner.takeBlock
  else if c = '"' ∨ c = '\x27' then scanner.takeQuoted
  else if startsPlain scanner.inFlow c rest then scanner.takePlain
  else none

/-- Takes the tokens of the text that is left. Each round reads a character at
least; `fuel` bounds their number. -/
def run (scanner : Scanner) : Nat → Option (List Token)
  | 0 => none
  | fuel + 1 => do
      let current ← scanner.skipBlanks.dropStaleKeys
      let scanner := current.unindent current.input.place.column
      match scanner.input.rest with
      | [] => return (← scanner.takeEnd).tokens.toList
      | c :: rest => (← scanner.takeAt c rest).run fuel

end Scanner

/-- Cuts a text into tokens. Directives and tags are refused. -/
def scan (chars : List Char) : Option (List Token) :=
  if chars.all isAllowed then
    let input := Input.ofChars chars
    (Scanner.ofInput input).run (input.rest.length + 1)
  else none

end MarkupLint.Yaml
