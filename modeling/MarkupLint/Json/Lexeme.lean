import MarkupLint.Json.Value

/-!
# The lexemes of JSON text

JSON text is cut into punctuation, strings, and the other scalar values. The
reader is strict: blanks are the space, the tab and the two line ends; strings
hold no control characters and no half of a surrogate pair.
-/

namespace MarkupLint.Json

/-- A lexeme of JSON text. -/
inductive Lexeme where
  | openBrace
  | closeBrace
  | openBracket
  | closeBracket
  | comma
  | colon
  | text (value : String)
  | scalar (value : Json)
deriving Repr, Inhabited

/-- Whether a character may stand between lexemes. -/
def isBlank (c : Char) : Bool :=
  c == ' ' || c == '\n' || c == '\t' || c == '\r'

/-- The value of a hexadecimal digit. -/
def hexValue? (c : Char) : Option Nat :=
  if c.isDigit then some (c.toNat - '0'.toNat)
  else if 'a' ≤ c ∧ c ≤ 'f' then some (c.toNat - 'a'.toNat + 10)
  else if 'A' ≤ c ∧ c ≤ 'F' then some (c.toNat - 'A'.toNat + 10)
  else none

/-- Reads four hexadecimal digits. -/
def readUnit : List Char → Option (Nat × List Char)
  | a :: b :: c :: d :: rest => do
      let first ← hexValue? a
      let second ← hexValue? b
      let third ← hexValue? c
      let fourth ← hexValue? d
      return (((first * 16 + second) * 16 + third) * 16 + fourth, rest)
  | _ => none

/-- Whether a code unit is the first half of a surrogate pair. -/
def isLeadingUnit (unit : Nat) : Bool :=
  0xD800 ≤ unit && unit ≤ 0xDBFF

/-- Whether a code unit is the second half of a surrogate pair. -/
def isTrailingUnit (unit : Nat) : Bool :=
  0xDC00 ≤ unit && unit ≤ 0xDFFF

/-- The character of a surrogate pair. -/
def pairChar (leading trailing : Nat) : Char :=
  Char.ofNat (0x10000 + (leading - 0xD800) * 0x400 + (trailing - 0xDC00))

/-- Reads the code point of a `\u` escape, behind the letter. -/
def readCodePoint (chars : List Char) : Option (Char × List Char) := do
  let (unit, rest) ← readUnit chars
  if isTrailingUnit unit then none
  else if isLeadingUnit unit then
    match rest with
    | '\\' :: 'u' :: more => do
        let (trailing, after) ← readUnit more
        if isTrailingUnit trailing then some (pairChar unit trailing, after) else none
    | _ => none
  else some (Char.ofNat unit, rest)

/-- Reads an escape, behind its backslash. -/
def readEscape : List Char → Option (Char × List Char)
  | '"' :: rest => some ('"', rest)
  | '\\' :: rest => some ('\\', rest)
  | '/' :: rest => some ('/', rest)
  | 'b' :: rest => some ('\x08', rest)
  | 'f' :: rest => some ('\x0c', rest)
  | 'n' :: rest => some ('\n', rest)
  | 'r' :: rest => some ('\r', rest)
  | 't' :: rest => some ('\t', rest)
  | 'u' :: rest => readCodePoint rest
  | _ => none

theorem length_readUnit {chars rest : List Char} {unit : Nat}
    (read : readUnit chars = some (unit, rest)) : rest.length < chars.length := by
  unfold readUnit at read
  split at read
  · simp only [Option.bind_eq_bind, Option.bind_eq_some_iff, Option.pure_def, Option.some.injEq,
      Prod.mk.injEq] at read
    obtain ⟨_, _, _, _, _, _, _, _, _, rfl⟩ := read
    simp only [List.length_cons]
    omega
  · simp at read

theorem length_readCodePoint {chars rest : List Char} {c : Char}
    (read : readCodePoint chars = some (c, rest)) : rest.length < chars.length := by
  simp only [readCodePoint, Option.bind_eq_bind, Option.bind_eq_some_iff] at read
  obtain ⟨⟨unit, unread⟩, first, read⟩ := read
  have shorter := length_readUnit first
  simp only at read
  split at read
  · simp at read
  · split at read
    · split at read
      · rename_i more
        simp only [Option.bind_eq_some_iff] at read
        obtain ⟨⟨trailing, after⟩, second, read⟩ := read
        have shorterStill := length_readUnit second
        simp only at read
        split at read
        · simp only [Option.some.injEq, Prod.mk.injEq] at read
          obtain ⟨_, rfl⟩ := read
          simp only [List.length_cons] at shorter
          omega
        · simp at read
      · simp at read
    · simp only [Option.some.injEq, Prod.mk.injEq] at read
      obtain ⟨_, rfl⟩ := read
      exact shorter

/-- An escape is read from at least one character. -/
theorem length_readEscape {chars rest : List Char} {c : Char}
    (read : readEscape chars = some (c, rest)) : rest.length < chars.length := by
  unfold readEscape at read
  split at read
  case h_9 =>
    have shorter := length_readCodePoint read
    simp only [List.length_cons]
    omega
  case h_10 => simp at read
  all_goals
    simp only [Option.some.injEq, Prod.mk.injEq] at read
    obtain ⟨_, rfl⟩ := read
    simp

/-- Reads a string to its closing quote; `found` holds the characters read so
far, last one first. -/
def readString (found : List Char) (chars : List Char) : Option (String × List Char) :=
  match chars with
  | [] => none
  | c :: rest =>
      if c = '"' then some (String.ofList found.reverse, rest)
      else if c = '\\' then
        match escape : readEscape rest with
        | some (escaped, after) => readString (escaped :: found) after
        | none => none
      else if c.toNat < 0x20 then none
      else readString (c :: found) rest
termination_by chars.length
decreasing_by
  · have shorter := length_readEscape escape
    simp only [List.length_cons]
    omega
  · simp

theorem length_readString {found chars rest : List Char} {text : String}
    (read : readString found chars = some (text, rest)) : rest.length < chars.length := by
  fun_induction readString found chars with
  | case1 => simp at read
  | case2 found rest' =>
      simp only [Option.some.injEq, Prod.mk.injEq] at read
      obtain ⟨_, rfl⟩ := read
      simp
  | case3 found rest' escaped after escape _ ih =>
      have shorter := length_readEscape escape
      have shorterStill := ih read
      simp only [List.length_cons]
      omega
  | case4 => simp at read
  | case5 => simp at read
  | case6 found c rest' _ _ _ ih =>
      have shorter := ih read
      simp only [List.length_cons]
      omega

/-- Reads the lexeme at the front of `chars`, which starts with no blank. -/
def readLexeme : List Char → Option (Lexeme × List Char)
  | '\x7b' :: rest => some (.openBrace, rest)
  | '\x7d' :: rest => some (.closeBrace, rest)
  | '[' :: rest => some (.openBracket, rest)
  | ']' :: rest => some (.closeBracket, rest)
  | ',' :: rest => some (.comma, rest)
  | ':' :: rest => some (.colon, rest)
  | '"' :: rest => (readString [] rest).map fun (text, after) => (.text text, after)
  | 'n' :: 'u' :: 'l' :: 'l' :: rest => some (.scalar .null, rest)
  | 't' :: 'r' :: 'u' :: 'e' :: rest => some (.scalar (.bool true), rest)
  | 'f' :: 'a' :: 'l' :: 's' :: 'e' :: rest => some (.scalar (.bool false), rest)
  | chars => (Number.read? chars).map fun (value, after) => (.scalar (.number value), after)

/-- A lexeme is read from at least one character. -/
theorem length_readLexeme {chars rest : List Char} {lexeme : Lexeme}
    (read : readLexeme chars = some (lexeme, rest)) : rest.length < chars.length := by
  unfold readLexeme at read
  split at read
  case h_7 =>
    simp only [Option.map_eq_some_iff, Prod.mk.injEq] at read
    obtain ⟨⟨text, after⟩, found, _, rfl⟩ := read
    have shorter := length_readString found
    simp only [List.length_cons]
    omega
  case h_11 =>
    simp only [Option.map_eq_some_iff, Prod.mk.injEq] at read
    obtain ⟨⟨number, after⟩, found, _, rfl⟩ := read
    exact Number.length_read? found
  all_goals
    simp only [Option.some.injEq, Prod.mk.injEq] at read
    obtain ⟨_, rfl⟩ := read
    simp only [List.length_cons]
    omega

/-- Cuts JSON text into lexemes; `found` holds those read so far, last one first. -/
def scanFrom (found : List Lexeme) (chars : List Char) : Option (List Lexeme) :=
  match chars with
  | [] => some found.reverse
  | c :: rest =>
      if isBlank c then scanFrom found rest
      else
        match read : readLexeme (c :: rest) with
        | some (lexeme, after) => scanFrom (lexeme :: found) after
        | none => none
termination_by chars.length
decreasing_by
  · simp
  · exact length_readLexeme read

/-- Cuts JSON text into lexemes. -/
def scan (chars : List Char) : Option (List Lexeme) :=
  scanFrom [] chars

end MarkupLint.Json
