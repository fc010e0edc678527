import MarkupLint.Markup.Element
import MarkupLint.Markup.Slice

/-!
# Cutting a text into lexemes

A text is cut from left to right into comments, declarations, opening tags, closing tags and runs
of text. The characters at the front decide which of them comes next (`Lead.of`). Nothing is
refused: what starts nothing else is text, and what is not ended lasts to the end of the input.
The content of a raw text element is one text, up to a closing tag of its name.

Every step reads at least one character (`length_next_lt`), so cutting ends.
-/

namespace MarkupLint.Markup

/-- The slices of an attribute: its name, and the value between its quotes if one was written. -/
structure AttributeLexeme where
  name : Slice
  value : Option Slice
deriving DecidableEq, Repr, Inhabited

/-- An opening tag: where it starts, its name, its attributes, where it stops,
and whether it closes itself. -/
structure OpeningLexeme where
  start : Nat
  name : Slice
  attributes : List AttributeLexeme
  stop : Nat
  selfClosing : Bool
deriving DecidableEq, Repr, Inhabited

/-- One of the pieces a text is cut into. -/
inductive Lexeme where
  | text (slice : Slice)
  | comment (slice : Slice)
  | doctype (slice : Slice)
  | opening (tag : OpeningLexeme)
  | closing (whole name : Slice)
deriving DecidableEq, Repr, Inhabited

/-- What the characters at the front of a text begin. -/
inductive Lead where
  | comment
  | doctype
  | closing
  | opening
  | text
deriving DecidableEq, Repr

/-- Looks at the front of a text. -/
def Lead.of : List Char → Lead
  | '<' :: '!' :: '-' :: '-' :: _ => .comment
  | '<' :: '!' :: _ => .doctype
  | '<' :: '/' :: c :: _ => if c.isAlpha then .closing else .text
  | '<' :: c :: _ => if c.isAlpha then .opening else .text
  | _ => .text

/-- Whether a text may be followed by `chars` as the next lexeme. -/
def endsText : List Char → Bool
  | '<' :: c :: _ => c.isAlpha || c == '/' || c == '!'
  | _ => false

/-- Whether a comment is closed by `chars`. -/
def endsComment : List Char → Bool
  | '-' :: '-' :: '>' :: _ => true
  | _ => false

/-- Whether a name of a tag goes on with `c`. -/
def isTagNameChar (c : Char) : Bool :=
  !Text.isBlank c && c != '/' && c != '>'

/-- Whether a name of an attribute goes on with `c`. -/
def isAttributeNameChar (c : Char) : Bool :=
  !Text.isBlank c && c != '=' && c != '>' && c != '/'

/-- Whether a value without quotes goes on with `c`. -/
def isBareValueChar (c : Char) : Bool :=
  !Text.isBlank c && c != '>'

/-- Whether `chars` start with the lower-case `name` in any case, at a place
where a name of a tag ends. -/
def closesName : List Char → List Char → Bool
  | [], [] => true
  | [], c :: _ => !isTagNameChar c
  | _ :: _, [] => false
  | n :: name, c :: chars => n == c.toLower && closesName name chars

/-- Whether raw text inside the element `name` is ended by `chars`. -/
def endsRawText (name : List Char) : List Char → Bool
  | '<' :: '/' :: chars => closesName name chars
  | _ => false

namespace Slice

/-- Splits a slice behind the first character that passes the test, or at its end. -/
def splitThrough (test : Char → Bool) (slice : Slice) : Slice × Slice :=
  let (before, rest) := slice.splitWhile fun c => !test c
  let (last, after) := rest.splitAt 1
  (before.append last, after)

/-- Reads a comment, through its closing mark. -/
def readComment (slice : Slice) : Slice × Slice :=
  let (opened, body) := slice.splitAt 4
  let (content, rest) := body.cut endsComment
  let (mark, after) := rest.splitAt 3
  ((opened.append content).append mark, after)

/-- Reads a run of text: the first character, whatever it is, and all behind
it that starts no markup. -/
def readText (slice : Slice) : Slice × Slice :=
  let (first, rest) := slice.splitAt 1
  let (more, after) := rest.cut endsText
  (first.append more, after)

/-- Reads a closing tag: the whole of it and the name in it. -/
def readClosing (slice : Slice) : Slice × Slice × Slice :=
  let (mark, rest) := slice.splitAt 2
  let (name, tail) := rest.splitWhile isTagNameChar
  let (last, after) := tail.splitThrough (· == '>')
  ((mark.append name).append last, name, after)

/-- Reads the value of an attribute: what stands between two equal quotes, or a bare word. -/
def readValue (slice : Slice) : Slice × Slice :=
  match slice.chars with
  | '"' :: _ =>
      let (value, rest) := (slice.drop 1).splitWhile (· != '"')
      (value, rest.drop 1)
  | '\x27' :: _ =>
      let (value, rest) := (slice.drop 1).splitWhile (· != '\x27')
      (value, rest.drop 1)
  | _ => slice.splitWhile isBareValueChar

/-- Reads an attribute. Blanks may stand on both sides of the equals sign;
without one, the attribute ends with its name. -/
def readAttribute (slice : Slice) : AttributeLexeme × Slice :=
  let (name, rest) := slice.splitWhile isAttributeNameChar
  let gap := rest.skipBlanks
  match gap.chars with
  | '=' :: _ =>
      let (value, after) := (gap.drop 1).skipBlanks.readValue
      (⟨name, some value⟩, after)
  | _ => (⟨name, none⟩, rest)

theorem length_splitWhile_lt {keep : Char → Bool} {slice : Slice} {c : Char} {rest : List Char}
    (front : slice.chars = c :: rest) (kept : keep c = true) :
    (slice.splitWhile keep).2.length < slice.length := by
  have shorter := length_cutBefore_le (startsOutside keep) rest
  simp [splitWhile, cut, length, front, cutBefore_cons, startsOutside, kept]
  omega

theorem length_readValue_le (slice : Slice) : slice.readValue.2.length ≤ slice.length := by
  have bare := length_splitWhile_le isBareValueChar slice
  have double := length_splitWhile_le (· != '"') (slice.drop 1)
  have single := length_splitWhile_le (· != '\x27') (slice.drop 1)
  unfold readValue
  split <;> simp_all <;> omega

/-- An attribute is read from at least one character. -/
theorem length_readAttribute_lt {slice : Slice} {c : Char} {rest : List Char}
    (front : slice.chars = c :: rest) (starts : isAttributeNameChar c = true ∨ c = '=') :
    slice.readAttribute.2.length < slice.length := by
  have nameLe := length_splitWhile_le isAttributeNameChar slice
  have gapLe := length_skipBlanks_le (slice.splitWhile isAttributeNameChar).2
  unfold readAttribute
  simp only
  split
  · rename_i tail gapFront
    have positive : 0 < (slice.splitWhile isAttributeNameChar).2.skipBlanks.length := by
      simp [length, gapFront]
    have valueLe := length_readValue_le
      (((slice.splitWhile isAttributeNameChar).2.skipBlanks.drop 1).skipBlanks)
    have blanksLe := length_skipBlanks_le
      ((slice.splitWhile isAttributeNameChar).2.skipBlanks.drop 1)
    rw [length_drop] at blanksLe
    simp only
    omega
  · rename_i noEquals
    rcases starts with kept | rfl
    · exact length_splitWhile_lt front kept
    · have blankless : (slice.splitWhile isAttributeNameChar).2.skipBlanks.chars =
          '=' :: rest := by
        simp [skipBlanks, splitWhile, cut, front, cutBefore_cons, startsOutside,
          isAttributeNameChar, Text.isBlank]
      exact absurd blankless (noEquals rest)

/-- Behind its blanks, a slice starts with no blank. -/
theorem not_isBlank_of_skipBlanks {slice : Slice} {c : Char} {rest : List Char}
    (front : slice.skipBlanks.chars = c :: rest) : Text.isBlank c = false := by
  simpa [startsOutside] using cutBefore_snd_eq_cons front

end Slice

/-- What was read behind the name of an opening tag: the attributes, whether the tag closes
itself, and the slice left to read. -/
structure TagBody where
  attributes : List AttributeLexeme
  selfClosing : Bool
  rest : Slice
deriving Repr, Inhabited

/-- Reads the attributes of an opening tag, to its end; `found` holds those read so far, last one
first. A slash that does not end the tag is passed over. -/
def Slice.readAttributes (slice : Slice) (found : List AttributeLexeme) : TagBody :=
  match front : slice.skipBlanks.chars with
  | [] => ⟨found.reverse, false, slice.skipBlanks⟩
  | c :: rest =>
      if c = '>' then ⟨found.reverse, false, slice.skipBlanks.drop 1⟩
      else if c = '/' then
        if rest.head? = some '>' then ⟨found.reverse, true, slice.skipBlanks.drop 2⟩
        else (slice.skipBlanks.drop 1).readAttributes found
      else
        slice.skipBlanks.readAttribute.2.readAttributes (slice.skipBlanks.readAttribute.1 :: found)
termination_by slice.length
decreasing_by
  · have blanks := Slice.length_skipBlanks_le slice
    have positive : 0 < slice.skipBlanks.length := by simp [Slice.length, front]
    rw [Slice.length_drop]
    omega
  · have blanks := Slice.length_skipBlanks_le slice
    have starts : isAttributeNameChar c = true ∨ c = '=' := by
      by_cases equalsSign : c = '='
      · exact Or.inr equalsSign
      · exact Or.inl (by simp [isAttributeNameChar, Slice.not_isBlank_of_skipBlanks front, *])
    have shorter := Slice.length_readAttribute_lt front starts
    omega

theorem Slice.length_readAttributes_le (slice : Slice) (found : List AttributeLexeme) :
    (slice.readAttributes found).rest.length ≤ slice.length := by
  fun_induction Slice.readAttributes slice found with
  | case1 slice found front => exact Slice.length_skipBlanks_le slice
  | case2 slice found rest front =>
      have blanks := Slice.length_skipBlanks_le slice
      simp only [Slice.length_drop]
      omega
  | case3 slice found rest front slashed closed =>
      have blanks := Slice.length_skipBlanks_le slice
      simp only [Slice.length_drop]
      omega
  | case4 slice found rest front slashed open_ ih =>
      have blanks := Slice.length_skipBlanks_le slice
      simp only [Slice.length_drop] at ih
      omega
  | case5 slice found c rest front unended unslashed ih =>
      have blanks := Slice.length_skipBlanks_le slice
      have starts : isAttributeNameChar c = true ∨ c = '=' := by
        by_cases equalsSign : c = '='
        · exact Or.inr equalsSign
        · exact Or.inl (by simp [isAttributeNameChar, Slice.not_isBlank_of_skipBlanks front, *])
      have shorter := Slice.length_readAttribute_lt front starts
      omega

/-- Reads an opening tag. -/
def Slice.readOpening (slice : Slice) : OpeningLexeme × Slice :=
  let (name, rest) := (slice.drop 1).splitWhile isTagNameChar
  let body := rest.readAttributes []
  (⟨slice.start, name, body.attributes, body.rest.start, body.selfClosing⟩, body.rest)

namespace OpeningLexeme

/-- The name an element is matched by: its written name in lower case. -/
def elementName (tag : OpeningLexeme) : String :=
  Text.lowercase (String.ofList tag.name.chars)

/-- Whether nothing can stand inside the element: it closes itself, or never has content. -/
def standsAlone (tag : OpeningLexeme) : Bool :=
  tag.selfClosing || isVoidElement tag.elementName

/-- Whether the content of the element is one text. -/
def opensRawText (tag : OpeningLexeme) : Bool :=
  !tag.standsAlone && isRawTextElement tag.elementName

end OpeningLexeme

/-- Reads the content of the raw text element `name`: a text, unless it is empty. -/
def Slice.readRawText (name : String) (slice : Slice) : List Lexeme × Slice :=
  let (content, rest) := slice.cut (endsRawText name.toList)
  (if content.chars.isEmpty then [] else [.text content], rest)

/-- Reads the next lexeme, and the raw text behind it if it opens a raw text element. -/
def Slice.next (slice : Slice) : List Lexeme × Slice :=
  match Lead.of slice.chars with
  | .comment =>
      let (comment, rest) := slice.readComment
      ([.comment comment], rest)
  | .doctype =>
      let (doctype, rest) := slice.splitThrough (· == '>')
      ([.doctype doctype], rest)
  | .closing =>
      let (whole, name, rest) := slice.readClosing
      ([.closing whole name], rest)
  | .opening =>
      let (tag, rest) := slice.readOpening
      if tag.opensRawText then
        let (content, after) := rest.readRawText tag.elementName
        (.opening tag :: content, after)
      else ([.opening tag], rest)
  | .text =>
      let (text, rest) := slice.readText
      ([.text text], rest)

namespace Slice

theorem length_pos_of_chars_ne_nil {slice : Slice} (unread : slice.chars ≠ []) :
    0 < slice.length :=
  List.length_pos_iff.mpr unread

theorem length_readText_lt {slice : Slice} (unread : slice.chars ≠ []) :
    slice.readText.2.length < slice.length := by
  have positive := length_pos_of_chars_ne_nil unread
  have shorter := length_cut_le endsText (slice.drop 1)
  rw [length_drop] at shorter
  exact Nat.lt_of_le_of_lt shorter (by omega)

theorem length_splitThrough_le (test : Char → Bool) (slice : Slice) :
    (slice.splitThrough test).2.length ≤ slice.length - 1 := by
  have shorter := length_splitWhile_le (fun c => !test c) slice
  have dropped := length_drop 1 (slice.splitWhile fun c => !test c).2
  change ((slice.splitWhile fun c => !test c).2.drop 1).length ≤ _
  omega

theorem length_readComment_lt {slice : Slice} (unread : slice.chars ≠ []) :
    slice.readComment.2.length < slice.length := by
  have positive := length_pos_of_chars_ne_nil unread
  have body := length_cut_le endsComment (slice.drop 4)
  have mark := length_drop 3 ((slice.drop 4).cut endsComment).2
  rw [length_drop] at body
  change (((slice.drop 4).cut endsComment).2.drop 3).length < _
  omega

theorem length_readClosing_lt {slice : Slice} (unread : slice.chars ≠ []) :
    slice.readClosing.2.2.length < slice.length := by
  have positive := length_pos_of_chars_ne_nil unread
  have name := length_splitWhile_le isTagNameChar (slice.drop 2)
  have tail := length_splitThrough_le (· == '>') ((slice.drop 2).splitWhile isTagNameChar).2
  rw [length_drop] at name
  change ((((slice.drop 2).splitWhile isTagNameChar).2.splitThrough (· == '>')).2).length < _
  omega

theorem length_readOpening_lt {slice : Slice} (unread : slice.chars ≠ []) :
    slice.readOpening.2.length < slice.length := by
  have positive := length_pos_of_chars_ne_nil unread
  have name := length_splitWhile_le isTagNameChar (slice.drop 1)
  have body := length_readAttributes_le ((slice.drop 1).splitWhile isTagNameChar).2 []
  rw [length_drop] at name
  change (((slice.drop 1).splitWhile isTagNameChar).2.readAttributes []).rest.length < _
  omega

/-- Every step reads at least one character. -/
theorem length_next_lt {slice : Slice} (unread : slice.chars ≠ []) :
    slice.next.2.length < slice.length := by
  unfold next
  split
  · exact length_readComment_lt unread
  · have positive := length_pos_of_chars_ne_nil unread
    have shorter := length_splitThrough_le (· == '>') slice
    exact Nat.lt_of_le_of_lt shorter (by omega)
  · exact length_readClosing_lt unread
  · have shorter := length_readOpening_lt unread
    simp only
    split
    · have content := length_cut_le (endsRawText slice.readOpening.1.elementName.toList)
        slice.readOpening.2
      exact Nat.lt_of_le_of_lt content shorter
    · exact shorter
  · exact length_readText_lt unread

end Slice

/-- Cuts what is left of a text; `found` holds the lexemes read so far, last one first. -/
def scanFrom (found : List Lexeme) (slice : Slice) : List Lexeme :=
  if unread : slice.chars = [] then found.reverse
  else scanFrom (slice.next.1.reverse ++ found) slice.next.2
termination_by slice.length
decreasing_by exact Slice.length_next_lt unread

/-- Cuts a slice into lexemes. -/
def scan (slice : Slice) : List Lexeme :=
  scanFrom [] slice

theorem scanFrom_eq (found : List Lexeme) (slice : Slice) :
    scanFrom found slice = found.reverse ++ scan slice := by
  induction size : slice.length using Nat.strongRecOn generalizing found slice with
  | ind size ih =>
      subst size
      rw [scan, scanFrom.eq_def found slice, scanFrom.eq_def [] slice]
      split
      · simp
      · rename_i unread
        have shorter := Slice.length_next_lt unread
        rw [ih _ shorter _ _ rfl, ih _ shorter (slice.next.1.reverse ++ []) _ rfl]
        simp

/-- Nothing is cut from an empty text. -/
theorem scan_of_chars_eq_nil {slice : Slice} (done : slice.chars = []) : scan slice = [] := by
  rw [scan, scanFrom]
  simp [done]

/-- The lexemes of a text are those at its front, then those of the rest. -/
theorem scan_of_chars_ne_nil {slice : Slice} (unread : slice.chars ≠ []) :
    scan slice = slice.next.1 ++ scan slice.next.2 := by
  rw [scan, scanFrom]
  simp [unread, scanFrom_eq]

end MarkupLint.Markup
