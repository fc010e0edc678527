import MarkupLint.Language
import MarkupLint.Proofs.Text.AsciiCase

/-!
# Canonical forms of language tags

A language tag is judged in two respects. Whether its subtags are known and well-formed does not
depend on the case of its letters, nor on white space around it. If they are, the tag has a
canonical form, with its first subtag in lower case and its second one in upper case; that form is
valid, and the tag itself is valid if and only if it is written in it (`classify_up_to_case`).
-/

namespace MarkupLint.Language

/-! ## Subtags -/

/-- The subtags with the first one in lower case and the second one, if there
is one, in upper case. -/
def canonicalSubtags : List (List Char) → List (List Char)
  | [] => []
  | [language] => [Text.lowerChars language]
  | language :: region :: more => Text.lowerChars language :: Text.upperChars region :: more

/-- The tag with its subtags in canonical case. -/
def canonicalChars (tag : List Char) : List Char :=
  ['-'].intercalate (canonicalSubtags (tag.splitOn '-'))

/-- The canonical form of a language tag. -/
def canonicalForm (tag : String) : String :=
  String.ofList (canonicalChars tag.toList)

/-- How hyphens divide a tag: it is a language alone, or a language and a region, behind which
nothing or another hyphen stands. -/
inductive Divided : List Char → Prop where
  | alone {language : List Char} (whole : '-' ∉ language) : Divided language
  | regional {language region rest : List Char} (languageWhole : '-' ∉ language)
      (regionWhole : '-' ∉ region) (ends : rest = [] ∨ ∃ more, rest = '-' :: more) :
      Divided (language ++ '-' :: (region ++ rest))

/-- A list is cut in front of its first hyphen. -/
theorem exists_cut (chars : List Char) :
    ∃ front rest, chars = front ++ rest ∧ '-' ∉ front ∧
      (rest = [] ∨ ∃ more, rest = '-' :: more) := by
  induction chars with
  | nil => exact ⟨[], [], rfl, List.not_mem_nil, Or.inl rfl⟩
  | cons c chars ih =>
      by_cases hyphen : c = '-'
      · exact ⟨[], c :: chars, rfl, List.not_mem_nil, Or.inr ⟨chars, by rw [hyphen]⟩⟩
      · rcases ih with ⟨front, rest, rfl, whole, ends⟩
        refine ⟨c :: front, rest, rfl, ?_, ends⟩
        rw [List.mem_cons, not_or]
        exact ⟨Ne.symm hyphen, whole⟩

theorem divided (tag : List Char) : Divided tag := by
  rcases exists_cut tag with ⟨language, rest, rfl, languageWhole, rfl | ⟨more, rfl⟩⟩
  · rw [List.append_nil]
    exact .alone languageWhole
  · rcases exists_cut more with ⟨region, rest, rfl, regionWhole, ends⟩
    exact .regional languageWhole regionWhole ends

section Parts

variable {language region rest : List Char}

theorem bne_of_whole (whole : '-' ∉ language) : ∀ c ∈ language, (c != '-') = true := by
  intro c mem
  rw [bne_iff_ne]
  rintro rfl
  exact whole mem

theorem takeWhile_of_whole (whole : '-' ∉ language)
    (ends : rest = [] ∨ ∃ more, rest = '-' :: more) :
    (language ++ rest).takeWhile (· != '-') = language := by
  rw [List.takeWhile_append_of_pos (bne_of_whole whole)]
  rcases ends with rfl | ⟨more, rfl⟩ <;> simp

theorem languageOf_alone (whole : '-' ∉ language) : languageOf language = language := by
  have taken := takeWhile_of_whole whole (Or.inl rfl)
  rwa [List.append_nil] at taken

theorem regionOf?_alone (whole : '-' ∉ language) : regionOf? language = none := by
  rw [regionOf?, List.dropWhile_eq_nil_iff.mpr (bne_of_whole whole)]

variable (languageWhole : '-' ∉ language) (regionWhole : '-' ∉ region)
  (ends : rest = [] ∨ ∃ more, rest = '-' :: more)

include languageWhole in
theorem languageOf_regional (rest : List Char) : languageOf (language ++ '-' :: rest) = language :=
  takeWhile_of_whole languageWhole (Or.inr ⟨rest, rfl⟩)

include languageWhole regionWhole ends in
theorem regionOf?_regional : regionOf? (language ++ '-' :: (region ++ rest)) = some region := by
  rw [regionOf?, List.dropWhile_append_of_pos (bne_of_whole languageWhole),
    List.dropWhile_cons_of_neg (by simp)]
  exact congrArg some (takeWhile_of_whole regionWhole ends)

theorem canonicalChars_alone (whole : '-' ∉ language) :
    canonicalChars language = Text.lowerChars language := by
  rw [canonicalChars, List.splitOn_eq_singleton whole, canonicalSubtags,
    List.intercalate_singleton]

include languageWhole regionWhole ends in
theorem canonicalChars_regional :
    canonicalChars (language ++ '-' :: (region ++ rest)) =
      Text.lowerChars language ++ '-' :: (Text.upperChars region ++ rest) := by
  rw [canonicalChars, List.splitOn_append_cons_self_of_not_mem languageWhole]
  rcases ends with rfl | ⟨more, rfl⟩
  · rw [List.append_nil, List.splitOn_eq_singleton regionWhole, canonicalSubtags,
      List.intercalate_cons_cons, List.intercalate_singleton]
    simp
  · rw [List.splitOn_append_cons_self_of_not_mem regionWhole, canonicalSubtags,
      List.intercalate_cons_cons, List.intercalate_cons_of_ne_nil (List.splitOn_ne_nil _ _),
      List.intercalate_splitOn]
    simp

end Parts

/-! ## Languages and regions -/

theorem codes_letters :
    ∀ code ∈ codes, code.toList ≠ [] ∧ code.toList.all Char.isLower = true := by
  decide +kernel

theorem isLanguage_lowerChars (language : List Char) :
    isLanguage (Text.lowerChars language) = isLanguage language := by
  rw [isLanguage, Text.lowerChars_lowerChars, isLanguage]

/-- The lower form of a language is some small letters. -/
theorem lowerChars_of_isLanguage {language : List Char} (known : isLanguage language = true) :
    Text.lowerChars language ≠ [] ∧ ∀ c ∈ Text.lowerChars language, c.isLower = true := by
  have letters := codes_letters _ (List.contains_iff_mem.mp known)
  rwa [String.toList_ofList, List.all_eq_true] at letters

theorem hyphen_not_mem_lowerChars {language : List Char} (known : isLanguage language = true) :
    '-' ∉ Text.lowerChars language := by
  intro mem
  exact absurd ((lowerChars_of_isLanguage known).2 '-' mem) (by decide)

theorem isRegion_iff {region : List Char} :
    isRegion region = true ↔ (region.length = 2 ∧ ∀ c ∈ region, c.isAlpha = true) ∨
      (region.length = 3 ∧ ∀ c ∈ region, c.isDigit = true) := by
  simp only [isRegion, Bool.or_eq_true, Bool.and_eq_true, beq_iff_eq, List.all_eq_true]

theorem isAlphanum_of_isRegion {region : List Char} (formed : isRegion region = true) :
    ∀ c ∈ region, c.isAlphanum = true := by
  intro c mem
  rcases isRegion_iff.mp formed with ⟨_, letters⟩ | ⟨_, digits⟩
  · simp [Char.isAlphanum, letters c mem]
  · simp [Char.isAlphanum, digits c mem]

theorem ne_nil_of_isRegion {region : List Char} (formed : isRegion region = true) :
    region ≠ [] := by
  rintro rfl
  exact absurd formed (by decide)

theorem hyphen_not_mem_of_isRegion {region : List Char} (formed : isRegion region = true) :
    '-' ∉ region := by
  intro mem
  exact absurd (isAlphanum_of_isRegion formed '-' mem) (by decide)

theorem toNat_lt_of_isAlphanum {c : Char} (plain : c.isAlphanum = true) : c.toNat < 0x80 := by
  rcases Bool.or_eq_true_iff.mp plain with letter | digit
  · exact Text.toNat_lt_of_isAlpha letter
  · simp only [Char.isDigit, Bool.and_eq_true, decide_eq_true_eq, UInt32.le_iff_toNat_le] at digit
    have bound : c.toNat ≤ '9'.toNat := digit.2
    exact Nat.lt_of_le_of_lt bound (by decide)

theorem isWhiteSpace_of_isAlphanum {c : Char} (plain : c.isAlphanum = true) :
    Text.isWhiteSpace c = false := by
  apply Text.isWhiteSpace_of_isWord
  rw [Text.isWord, if_pos (toNat_lt_of_isAlphanum plain), plain, Bool.true_or]

theorem isWhiteSpace_lowerChars {language : List Char} (known : isLanguage language = true) :
    ∀ c ∈ Text.lowerChars language, Text.isWhiteSpace c = false := by
  intro c mem
  apply isWhiteSpace_of_isAlphanum
  simp [Char.isAlphanum, Char.isAlpha, (lowerChars_of_isLanguage known).2 c mem]

theorem upperChars_of_isRegion {region : List Char} (formed : isRegion region = true) :
    Text.upperChars region = region.map Char.toUpper := by
  apply Text.upperChars_of_ascii
  intro c mem
  exact toNat_lt_of_isAlphanum (isAlphanum_of_isRegion formed c mem)

theorem isRegion_map {f : Char → Char} (alpha : ∀ c, (f c).isAlpha = c.isAlpha)
    (digit : ∀ c, (f c).isDigit = c.isDigit) (region : List Char) :
    isRegion (region.map f) = isRegion region := by
  have sameAlpha : Char.isAlpha ∘ f = Char.isAlpha := funext alpha
  have sameDigit : Char.isDigit ∘ f = Char.isDigit := funext digit
  simp only [isRegion, List.length_map, List.all_map, sameAlpha, sameDigit]

theorem isRegion_upperChars {region : List Char} (formed : isRegion region = true) :
    isRegion (Text.upperChars region) = true := by
  rw [upperChars_of_isRegion formed,
    isRegion_map Char.isAlpha_toUpper_eq_isAlpha Text.isDigit_toUpper, formed]

theorem upperChars_upperChars {region : List Char} (formed : isRegion region = true) :
    Text.upperChars (Text.upperChars region) = Text.upperChars region := by
  rw [upperChars_of_isRegion (isRegion_upperChars formed), upperChars_of_isRegion formed,
    List.map_map]
  congr 1
  funext c
  exact Char.toUpper_toUpper_eq_toUpper c

/-! ## Well-formed tags -/

/-- A tag is well-formed if it is empty, a known language alone, or one with a region of the right
form. What follows the region does not matter. -/
inductive WellFormed : List Char → Prop where
  | empty : WellFormed []
  | alone {language : List Char} (whole : '-' ∉ language) (known : isLanguage language = true) :
      WellFormed language
  | regional {language region rest : List Char} (whole : '-' ∉ language)
      (known : isLanguage language = true)
      (formed : isRegion region = true) (ends : rest = [] ∨ ∃ more, rest = '-' :: more) :
      WellFormed (language ++ '-' :: (region ++ rest))

theorem wellFormed_iff {tag : List Char} :
    WellFormed tag ↔ tag = [] ∨ isLanguage (languageOf tag) = true ∧
    (regionOf? tag).all isRegion = true := by
  constructor
  · intro formed
    cases formed with
    | empty => exact Or.inl rfl
    | alone whole known =>
        rw [languageOf_alone whole, regionOf?_alone whole]
        exact Or.inr ⟨known, rfl⟩
    | regional whole known formed ends =>
        rw [languageOf_regional whole,
          regionOf?_regional whole (hyphen_not_mem_of_isRegion formed) ends]
        exact Or.inr ⟨known, formed⟩
  · rintro (rfl | ⟨known, formed⟩)
    · exact .empty
    · cases divided tag with
      | alone whole =>
          rw [languageOf_alone whole] at known
          exact .alone whole known
      | regional languageWhole regionWhole ends =>
          rw [languageOf_regional languageWhole] at known
          rw [regionOf?_regional languageWhole regionWhole ends] at formed
          exact .regional languageWhole known formed ends

theorem classify_of_wellFormed {text : String}
    (wellFormed : WellFormed (Text.trimChars text.toList)) :
    classify text =
      if isCanonical (Text.trimChars text.toList) then .valid else .nonCanonicalCase := by
  rw [wellFormed_iff] at wellFormed
  rw [classify]
  rcases wellFormed with empty | ⟨known, formed⟩
  · rw [empty]
    rfl
  · cases trimmed : Text.trimChars text.toList with
    | nil => rfl
    | cons c rest =>
        rw [trimmed] at known formed
        simp [known, formed]

theorem classify_eq_invalidSubtag_iff {text : String} :
    classify text = .invalidSubtag ↔ ¬ WellFormed (Text.trimChars text.toList) := by
  constructor
  · intro invalid wellFormed
    rw [classify_of_wellFormed wellFormed] at invalid
    split at invalid <;> contradiction
  · intro malformed
    rw [wellFormed_iff, not_or, not_and] at malformed
    rcases malformed with ⟨nonempty, misformed⟩
    by_cases known : isLanguage (languageOf (Text.trimChars text.toList)) = true
    · simp [classify, nonempty, known, misformed known]
    · simp [classify, nonempty, known]

/-! ## Canonical forms -/

section Canonical

variable {tag : List Char} (wellFormed : WellFormed tag)

include wellFormed

theorem WellFormed.canonicalChars : WellFormed (canonicalChars tag) := by
  cases wellFormed with
  | empty => exact .empty
  | alone whole known =>
      rw [canonicalChars_alone whole]
      apply WellFormed.alone (hyphen_not_mem_lowerChars known)
      rw [isLanguage_lowerChars, known]
  | regional whole known formed ends =>
      rw [canonicalChars_regional whole (hyphen_not_mem_of_isRegion formed) ends]
      apply WellFormed.regional (hyphen_not_mem_lowerChars known) _
        (isRegion_upperChars formed) ends
      rw [isLanguage_lowerChars, known]

theorem WellFormed.canonicalChars_canonicalChars :
    Language.canonicalChars (Language.canonicalChars tag) = Language.canonicalChars tag := by
  cases wellFormed with
  | empty => rfl
  | alone whole known =>
      rw [canonicalChars_alone whole, canonicalChars_alone (hyphen_not_mem_lowerChars known),
        Text.lowerChars_lowerChars]
  | regional whole known formed ends =>
      rw [canonicalChars_regional whole (hyphen_not_mem_of_isRegion formed) ends,
        canonicalChars_regional (hyphen_not_mem_lowerChars known)
          (hyphen_not_mem_of_isRegion (isRegion_upperChars formed)) ends,
        Text.lowerChars_lowerChars, upperChars_upperChars formed]

/-- A well-formed tag is found to be canonical if and only if it is its own canonical form. -/
theorem WellFormed.isCanonical_iff :
    isCanonical tag = true ↔ Language.canonicalChars tag = tag := by
  cases wellFormed with
  | empty => exact ⟨fun _ => rfl, fun _ => rfl⟩
  | alone whole known =>
      rw [isCanonical, languageOf_alone whole, regionOf?_alone whole, canonicalChars_alone whole,
        Option.all_none, Bool.and_true, beq_iff_eq]
  | @regional language region rest whole known formed ends =>
      have regionWhole := hyphen_not_mem_of_isRegion formed
      rw [isCanonical, languageOf_regional whole, regionOf?_regional whole regionWhole ends,
        canonicalChars_regional whole regionWhole ends, Option.all_some, Bool.and_eq_true,
        beq_iff_eq, beq_iff_eq]
      constructor
      · rintro ⟨lower, upper⟩
        rw [lower, upper]
      · -- equal tags have equal first and second subtags
        intro same
        have loweredWhole := hyphen_not_mem_lowerChars known
        have raisedWhole := hyphen_not_mem_of_isRegion (isRegion_upperChars formed)
        have languages := congrArg languageOf same
        have regions := congrArg regionOf? same
        rw [languageOf_regional loweredWhole, languageOf_regional whole] at languages
        rw [regionOf?_regional loweredWhole raisedWhole ends,
          regionOf?_regional whole regionWhole ends] at regions
        exact ⟨languages, Option.some.inj regions⟩

/-- The canonical form of a well-formed tag begins with a letter. -/
theorem WellFormed.isWhiteSpace_head {c : Char}
    (first : (Language.canonicalChars tag).head? = some c) : Text.isWhiteSpace c = false := by
  cases wellFormed with
  | empty => exact absurd first (by simp [Language.canonicalChars, canonicalSubtags])
  | alone whole known =>
      rw [canonicalChars_alone whole] at first
      exact isWhiteSpace_lowerChars known c (List.mem_of_head? first)
  | regional whole known formed ends =>
      rw [canonicalChars_regional whole (hyphen_not_mem_of_isRegion formed) ends,
        List.head?_append_of_ne_nil _ (lowerChars_of_isLanguage known).1] at first
      exact isWhiteSpace_lowerChars known c (List.mem_of_head? first)

/-- The canonical form of a well-formed tag ends with a letter, a digit or the
last character of the tag. -/
theorem WellFormed.isWhiteSpace_last
    (solid : ∀ c, tag.getLast? = some c → Text.isWhiteSpace c = false) {c : Char}
    (last : (Language.canonicalChars tag).getLast? = some c) : Text.isWhiteSpace c = false := by
  cases wellFormed with
  | empty => exact solid c last
  | alone whole known =>
      rw [canonicalChars_alone whole] at last
      exact isWhiteSpace_lowerChars known c (List.mem_of_getLast? last)
  | @regional language region rest whole known formed ends =>
      rw [canonicalChars_regional whole (hyphen_not_mem_of_isRegion formed) ends,
        ← List.cons_append, ← List.append_assoc] at last
      rw [← List.cons_append, ← List.append_assoc] at solid
      rcases ends with rfl | ⟨more, rfl⟩
      · have raised := isRegion_upperChars formed
        rw [List.append_nil, List.getLast?_append_of_ne_nil _ (List.cons_ne_nil _ _),
          List.getLast?_cons_of_ne_nil (ne_nil_of_isRegion raised)] at last
        exact isWhiteSpace_of_isAlphanum
          (isAlphanum_of_isRegion raised c (List.mem_of_getLast? last))
      · apply solid
        rw [List.getLast?_append_of_ne_nil _ (List.cons_ne_nil _ _)] at last ⊢
        exact last

end Canonical

/-- Nothing is trimmed from the canonical form of a tag that was trimmed. -/
theorem trimChars_canonicalChars {text : List Char}
    (wellFormed : WellFormed (Text.trimChars text)) :
    Text.trimChars (canonicalChars (Text.trimChars text)) = canonicalChars (Text.trimChars text) :=
  Text.trimChars_of_solid (fun _ first => wellFormed.isWhiteSpace_head first)
    (fun _ last =>
      wellFormed.isWhiteSpace_last (fun _ => Text.isWhiteSpace_of_getLast?_trimChars) last)

/-! ## The case of letters -/

theorem toLower_bne_hyphen : (fun c => c != '-') ∘ Char.toLower = (fun c => c != '-') := by
  funext c
  exact congrArg not (Text.toLower_beq (by decide) c)

theorem languageOf_map_toLower (tag : List Char) :
    languageOf (tag.map Char.toLower) = (languageOf tag).map Char.toLower := by
  rw [languageOf, List.takeWhile_map, toLower_bne_hyphen, languageOf]

theorem regionOf?_map_toLower (tag : List Char) :
    regionOf? (tag.map Char.toLower) = (regionOf? tag).map (List.map Char.toLower) := by
  rw [regionOf?, regionOf?, List.dropWhile_map, toLower_bne_hyphen]
  cases tag.dropWhile (· != '-') with
  | nil => rfl
  | cons hyphen rest => exact congrArg some (languageOf_map_toLower rest)

theorem wellFormed_map_toLower {tag : List Char} :
    WellFormed (tag.map Char.toLower) ↔ WellFormed tag := by
  have sameLanguage : isLanguage ((languageOf tag).map Char.toLower) =
      isLanguage (languageOf tag) := by
    rw [isLanguage, Text.lowerChars_map_toLower, isLanguage]
  have sameRegion : (fun region => isRegion (region.map Char.toLower)) = isRegion :=
    funext (isRegion_map Char.isAlpha_toLower_eq_isAlpha Text.isDigit_toLower)
  rw [wellFormed_iff, wellFormed_iff, List.map_eq_nil_iff, languageOf_map_toLower,
    regionOf?_map_toLower, sameLanguage, Option.all_map, sameRegion]

/-- Texts that differ in the case of ASCII letters only are trimmed to tags of
which both or none are well-formed. -/
theorem wellFormed_trimChars_congr {text variant : List Char}
    (same : variant.map Char.toLower = text.map Char.toLower) :
    WellFormed (Text.trimChars variant) ↔ WellFormed (Text.trimChars text) := by
  rw [← wellFormed_map_toLower, Text.map_trimChars_toLower, same, ← Text.map_trimChars_toLower,
    wellFormed_map_toLower]

/-! ## Judging tags -/

/-- A tag whose subtags are known and well-formed has a valid canonical form, and is valid itself
if and only if it is written in that form. Whether they are depends neither on the case of ASCII
letters nor on white space around the tag. -/
theorem classify_up_to_case (text : String) :
    (classify text ≠ .invalidSubtag →
      classify (canonicalForm (Text.trim text)) = .valid ∧
        classify text =
          if canonicalForm (Text.trim text) = Text.trim text then .valid else .nonCanonicalCase) ∧
    ∀ (variant : String) (before after : List Char),
      variant.toList.map Char.toLower = text.toList.map Char.toLower →
      (∀ c ∈ before, Text.isWhiteSpace c = true) → (∀ c ∈ after, Text.isWhiteSpace c = true) →
      (classify (String.ofList (before ++ variant.toList ++ after)) = .invalidSubtag ↔
        classify text = .invalidSubtag) := by
  constructor
  · intro judged
    rw [Ne, classify_eq_invalidSubtag_iff, not_not] at judged
    have canonicalTrimmed : Text.trimChars (canonicalForm (Text.trim text)).toList =
        canonicalChars (Text.trimChars text.toList) := by
      rw [canonicalForm, Text.trim, String.toList_ofList, String.toList_ofList,
        trimChars_canonicalChars judged]
    constructor
    · have wellFormed := judged.canonicalChars
      rw [← canonicalTrimmed] at wellFormed
      rw [classify_of_wellFormed wellFormed, canonicalTrimmed,
        judged.canonicalChars.isCanonical_iff.mpr judged.canonicalChars_canonicalChars, if_pos rfl]
    · have sameForm : canonicalForm (Text.trim text) = Text.trim text ↔
          isCanonical (Text.trimChars text.toList) = true := by
        rw [judged.isCanonical_iff, canonicalForm, Text.trim, String.toList_ofList,
          String.ofList_inj]
      rw [classify_of_wellFormed judged]
      simp only [sameForm]
  · intro variant before after same blankBefore blankAfter
    rw [classify_eq_invalidSubtag_iff, classify_eq_invalidSubtag_iff, String.toList_ofList,
      Text.trimChars_append_of_blank _ blankAfter, Text.trimChars_append_left_of_blank blankBefore,
      wellFormed_trimChars_congr same]

/-- The Kelvin sign counts as a letter of a known language, but is not canonical. -/
theorem classify_up_to_case_kelvin :
    classify " \u212ao-kr-" ≠ .invalidSubtag ∧
    canonicalForm (Text.trim " \u212ao-kr-") = "ko-KR-" ∧
      classify (canonicalForm (Text.trim " \u212ao-kr-")) = .valid ∧
      classify " \u212ao-kr-" = .nonCanonicalCase ∧
      classify "\n \u212aO-kR-\t" ≠ .invalidSubtag := by
  have judged : classify " \u212ao-kr-" ≠ .invalidSubtag := by decide +kernel
  have form : canonicalForm (Text.trim " \u212ao-kr-") = "ko-KR-" := by decide +kernel
  have differs : canonicalForm (Text.trim " \u212ao-kr-") ≠ Text.trim " \u212ao-kr-" := by
    decide +kernel
  rcases classify_up_to_case " \u212ao-kr-" with ⟨canonical, invariant⟩
  rcases canonical judged with ⟨valid, verdict⟩
  rw [if_neg differs] at verdict
  have same := invariant " \u212aO-kR-" ['\n'] ['\t'] (by decide +kernel)
    (List.forall_mem_singleton.mpr (by decide +kernel))
      (List.forall_mem_singleton.mpr (by decide +kernel))
  exact ⟨judged, form, valid, verdict, fun invalid => judged (same.mp invalid)⟩

end MarkupLint.Language
