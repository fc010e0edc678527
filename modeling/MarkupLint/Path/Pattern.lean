import MarkupLint.Path.FileSystem

/-!
# Patterns of paths

In a pattern, a question mark stands for any character, a star for any number
of characters, and characters between brackets for one of them, or for one
that is not among them behind an exclamation mark. None of these passes a
slash. Two stars stand alone between slashes, for any number of directories.
-/

namespace MarkupLint.Path

/-- A part of a pattern. -/
inductive Part where
  | char (c : Char)
  | anyChar
  | sequence
  | directories
  | oneOf (ranges : List (Char × Char))
  | noneOf (ranges : List (Char × Char))
deriving DecidableEq, Repr, Inhabited

/-- What is wrong with a pattern. -/
inductive PatternProblem where
  | tooManyStars
  | starsNotAlone
  | invalidRange
deriving DecidableEq, Repr, Inhabited

/-- A problem with a pattern, and the number of characters in front of it. -/
structure PatternError where
  problem : PatternProblem
  position : Nat
deriving DecidableEq, Repr, Inhabited

/-- The wording of a problem. -/
def PatternProblem.message : PatternProblem → String
  | .tooManyStars => "wildcards are either regular `*` or recursive `**`"
  | .starsNotAlone => "recursive wildcards must form a single path component"
  | .invalidRange => "invalid range pattern"

/-- The wording of a problem with its place. -/
def PatternError.message (error : PatternError) : String :=
  "Pattern syntax error near position " ++ toString error.position ++ ": " ++ error.problem.message

/-- The ranges that the characters between brackets stand for. -/
def readRanges : List Char → List (Char × Char)
  | [] => []
  | first :: '-' :: last :: rest => (first, last) :: readRanges rest
  | c :: rest => (c, c) :: readRanges rest

/-- Reads the characters up to the closing bracket, behind the first one,
which may be a bracket itself. -/
def readBrackets : List Char → Option (List Char × List Char)
  | [] => none
  | first :: rest =>
      match rest.dropWhile (· != ']') with
      | _ :: after => some (first :: rest.takeWhile (· != ']'), after)
      | [] => none

/-- Reads a set of characters behind its opening bracket. -/
def readSet : List Char → Option (Part × List Char)
  | '!' :: rest => (readBrackets rest).map fun read => (.noneOf (readRanges read.1), read.2)
  | chars => (readBrackets chars).map fun read => (.oneOf (readRanges read.1), read.2)

/-- Reads what two stars stand for, in front of `rest`; `index` is the number of characters before
them, and `boundary` tells whether a name starts there. -/
def readStars (index : Nat) (boundary : Bool) (rest : List Char) :
    Except PatternError (List Char) :=
  if boundary then
    match rest with
    | [] => .ok []
    | '/' :: after => .ok after
    | _ => .error ⟨.starsNotAlone, index + 2⟩
  else .error ⟨.starsNotAlone, index - 1⟩

/-- Reads one part of a pattern and tells what is left. -/
def readPart (index : Nat) (boundary : Bool) :
    List Char → Except PatternError (Option (Part × List Char))
  | [] => .ok none
  | c :: rest =>
      if c = '?' then .ok (some (.anyChar, rest))
      else if c = '*' then
        match (rest.takeWhile (· == '*')).length with
        | 0 => .ok (some (.sequence, rest))
        | 1 => (readStars index boundary (rest.drop 1)).map fun after => some (.directories, after)
        | _ => .error ⟨.tooManyStars, index + 2⟩
      else if c = '[' then
        match readSet rest with
        | some read => .ok (some read)
        | none => .error ⟨.invalidRange, index⟩
      else .ok (some (.char c, rest))

/-- Reads the parts of a pattern that starts behind `index` characters. Each round reads a
character at least; `fuel` bounds their number. -/
def readParts (index : Nat) (boundary : Bool) (chars : List Char) :
    Nat → Except PatternError (List Part)
  | 0 => .ok []
  | fuel + 1 => do
      match ← readPart index boundary chars with
      | none => return []
      | some (part, rest) =>
          let after := part == .char '/' || part == .directories
          return part :: (← readParts (index + (chars.length - rest.length)) after rest fuel)

/-- Reads the parts of a whole text. -/
def parts (text : String) : Except PatternError (List Part) :=
  readParts 0 true text.toList (text.length + 1)

/-- Whether a character lies in one of some ranges. -/
def isInRanges (ranges : List (Char × Char)) (c : Char) : Bool :=
  ranges.any fun range => range.1 ≤ c && c ≤ range.2

/-- Whether a part that stands for one character stands for this one. -/
def Part.takes : Part → Char → Bool
  | .char expected, c => expected == c
  | .anyChar, _ => true
  | .oneOf ranges, c => isInRanges ranges c
  | .noneOf ranges, c => !isInRanges ranges c
  | .sequence, _ => true
  | .directories, _ => true

/-- Whether a part stands for any number of characters. -/
def Part.isSequence : Part → Bool
  | .sequence => true
  | .directories => true
  | _ => false

/-- For every tail of a list of truth values, whether one of its members is true. -/
def someFrom : List Bool → List Bool
  | [] => []
  | value :: values =>
      let later := someFrom values
      (value || later.headD false) :: later

/-- For every tail of a name, the whole name first and the empty one last,
whether parts match it. What the later parts match is worked out once for all
tails, so the work grows with the product of both lengths. -/
def matchingTails : List Part → List Char → List Bool
  | [], chars => chars.map (fun _ => false) ++ [true]
  | part :: rest, chars =>
      let later := matchingTails rest chars
      if part.isSequence then someFrom later
      else List.zipWith (fun c found => part.takes c && found) chars later.tail ++ [false]

/-- Whether parts match a name. -/
def matchesName (parts : List Part) (chars : List Char) : Bool :=
  (matchingTails parts chars).headD false

@[simp]
theorem length_someFrom (values : List Bool) : (someFrom values).length = values.length := by
  induction values with
  | nil => rfl
  | cons value values ih => simp [someFrom, ih]

@[simp]
theorem tail_someFrom (values : List Bool) : (someFrom values).tail = someFrom values.tail := by
  cases values <;> rfl

/-- A name has one tail more than it has characters. -/
@[simp]
theorem length_matchingTails (parts : List Part) (chars : List Char) :
    (matchingTails parts chars).length = chars.length + 1 := by
  induction parts with
  | nil => simp [matchingTails]
  | cons part rest ih => cases h : part.isSequence <;> simp [matchingTails, h, ih]

/-- The first tail of a name is the name itself. -/
theorem matchingTails_eq_cons (parts : List Part) (chars : List Char) :
    matchingTails parts chars = matchesName parts chars :: (matchingTails parts chars).tail := by
  have length := length_matchingTails parts chars
  cases h : matchingTails parts chars with
  | nil => simp [h] at length
  | cons found later => simp [matchesName, h]

/-- The other tails of a name are those of the name without its first character. -/
theorem tail_matchingTails (parts : List Part) (c : Char) (chars : List Char) :
    (matchingTails parts (c :: chars)).tail = matchingTails parts chars := by
  induction parts with
  | nil => rfl
  | cons part rest ih =>
      cases h : part.isSequence with
      | true => simp [matchingTails, h, ih]
      | false =>
          rw [matchingTails, matchingTails, ih, matchingTails_eq_cons rest chars]
          simp [h]

/-- No parts match the empty name only. -/
theorem matchesName_nil (chars : List Char) : matchesName [] chars = chars.isEmpty := by
  cases chars <;> rfl

/-- Parts match the empty name if each of them stands for any number of characters. -/
theorem matchesName_cons_nil (part : Part) (rest : List Part) :
    matchesName (part :: rest) [] = (part.isSequence && matchesName rest []) := by
  have tail : (matchingTails rest []).tail = [] := by
    apply List.eq_nil_of_length_eq_zero
    simp
  cases h : part.isSequence with
  | true =>
      rw [matchesName, matchingTails, matchingTails_eq_cons rest [], tail]
      simp [h, someFrom]
  | false => simp [matchesName, matchingTails, h]

/-- A part that stands for any number of characters is passed over or takes the first one. -/
theorem matchesName_sequence_cons (part : Part) (rest : List Part) (c : Char) (chars : List Char)
    (sequence : part.isSequence = true) :
    matchesName (part :: rest) (c :: chars) =
      (matchesName rest (c :: chars) || matchesName (part :: rest) chars) := by
  rw [matchesName, matchesName, matchesName, matchingTails, matchingTails,
    matchingTails_eq_cons rest (c :: chars), tail_matchingTails]
  simp [sequence, someFrom]

/-- Any other part takes the first character. -/
theorem matchesName_cons_cons (part : Part) (rest : List Part) (c : Char) (chars : List Char)
    (single : part.isSequence = false) :
    matchesName (part :: rest) (c :: chars) = (part.takes c && matchesName rest chars) := by
  rw [matchesName, matchingTails, tail_matchingTails, matchingTails_eq_cons rest chars]
  simp [single]

/-- The text that parts stand for, if they stand for one text only. -/
def literal? (parts : List Part) : Option String :=
  (parts.mapM fun (part : Part) =>
    match part with
    | .char c => some c
    | _ => none).map String.ofList

/-- A pattern: where the search starts, the parts of its names, and whether it
matches directories only. -/
structure Pattern where
  start : String
  names : List (List Part)
  directoryOnly : Bool
deriving Repr, Inhabited

/-- The names of a pattern behind its root. A slash at the end leaves no empty name. -/
def patternNames (text : String) : List String :=
  let names := components text
  if text ≠ "" ∧ names.getLast? = some "" then names.dropLast else names

/-- Reads a pattern. -/
def Pattern.ofText (text : String) : Except PatternError Pattern := do
  let _ ← parts text
  let absolute := text.startsWith "/"
  let names ← (patternNames (if absolute then (text.drop 1).toString else text)).mapM parts
  return ⟨if absolute then "/" else ".", names, text.endsWith "/"⟩

end MarkupLint.Path
