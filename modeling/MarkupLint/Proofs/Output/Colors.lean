import MarkupLint.Proofs.Json.PlainText
import MarkupLint.Proofs.Output.Totals

/-!
# Colours leave the text of a report as it is

The text of a report is set in styles at four places: the path of a file, the
severity and the rule of an issue, and the totals. If no text that goes into the
report holds an escape character, then all codes in it are those of the styles, and
without them it is the report of the format without colours (`colors_keep_text`).
Where the terminal takes no codes, the two formats write the same.
-/

namespace MarkupLint

open Terminal

/-! ## The texts that go into a report -/

namespace Issue

/-- The rule, the code, and every string and name in the data, at any depth. -/
def texts (issue : Issue) : List String :=
  issue.rule :: issue.code :: Json.fieldTexts (issue.data.getD [])

/-- No text of the issue holds an escape character. -/
def HasPlainTexts (issue : Issue) : Prop :=
  ∀ text ∈ issue.texts, Plain text.toList

instance : DecidablePred HasPlainTexts :=
  fun issue => inferInstanceAs (Decidable (∀ text ∈ issue.texts, Plain text.toList))

theorem texts_subset_of_datum? {issue : Issue} {name : String} {value : Json}
    (found : issue.datum? name = some value) : value.texts ⊆ issue.texts := by
  rcases Option.bind_eq_some_iff.mp found with ⟨data, given, found⟩
  have among := Json.texts_subset_of_get? found
  rw [texts, given]
  intro text mem
  exact List.mem_cons_of_mem _ (List.mem_cons_of_mem _ (among mem))

namespace HasPlainTexts

variable {issue : Issue} (plain : issue.HasPlainTexts)
include plain

theorem plain_rule : Plain issue.rule.toList :=
  plain _ List.mem_cons_self

theorem plain_code : Plain issue.code.toList :=
  plain _ (List.mem_cons_of_mem _ List.mem_cons_self)

theorem plain_datumText (name : String) : Plain (issue.datumText name).toList := by
  unfold datumText
  split
  · rename_i text found
    exact plain text (texts_subset_of_datum? found List.mem_cons_self)
  · exact Json.plain_compact _
  · decide

theorem plain_datumChars (name : String) : Plain (issue.datumChars name).toList := by
  unfold datumChars
  split
  · rename_i text found
    rcases Option.bind_eq_some_iff.mp found with ⟨token, given, chars⟩
    -- Only an object has a field for its characters.
    cases token with
    | object fields =>
        have inner : text ∈ (Json.object fields).texts :=
          Json.texts_subset_of_get? chars List.mem_cons_self
        exact plain text (texts_subset_of_datum? given inner)
    | null | bool | number | string | array => cases chars
  · decide

theorem plain_plainMessage : Plain issue.plainMessage.toList := by
  unfold plainMessage
  split
  · exact plain.plain_code
  · exact plain.plain_code
  · exact plain_quoting plain.plain_code (by decide) (Json.plain_compact _)

/-- The sentence for an issue quotes its texts and adds no escape character. -/
theorem plain_message : Plain issue.message.toList := by
  unfold message
  split
  · exact plain_quoting (by decide) (plain.plain_datumText _) (by decide)
  · exact plain_quoting (by decide) (plain.plain_datumChars _) (by decide)
  · exact plain_quoting (by decide) (plain.plain_datumText _) (by decide)
  · exact plain_quoting (by decide) (plain.plain_datumText _) (by decide)
  · exact plain.plain_plainMessage

end HasPlainTexts

end Issue

namespace FileReport

/-- The path and the texts of all issues. -/
def texts (file : FileReport) : List String :=
  file.path :: file.report.issues.flatMap Issue.texts

/-- No text of the file's report holds an escape character. -/
def HasPlainTexts (file : FileReport) : Prop :=
  ∀ text ∈ file.texts, Plain text.toList

instance : DecidablePred HasPlainTexts :=
  fun file => inferInstanceAs (Decidable (∀ text ∈ file.texts, Plain text.toList))

theorem HasPlainTexts.plain_path {file : FileReport} (plain : file.HasPlainTexts) :
    Plain file.path.toList :=
  plain _ List.mem_cons_self

theorem HasPlainTexts.issue {file : FileReport} (plain : file.HasPlainTexts) {issue : Issue}
    (mem : issue ∈ file.report.issues) : issue.HasPlainTexts := by
  intro text among
  exact plain text (List.mem_cons_of_mem _ (List.mem_flatMap.mpr ⟨issue, mem, among⟩))

end FileReport

/-! ## Formats with and without colours -/

namespace TextFormat

variable (format : TextFormat) (codes : Bool)

theorem plain_word (severity : Severity) : Plain severity.word.toList := by
  cases severity <;> decide

/-- Without its codes, a text in a style is what the format without colours writes. -/
theorem shows_paint {text : String} (plain : Plain text.toList) (style : Style) :
    Shows (format.paint codes style text) (format.withoutColor.paint codes style text) :=
  plain.shows_paint (format.colored && codes) style

theorem shows_issueChars {path : String} (plainPath : Plain path.toList) {issue : Issue}
    (plain : issue.HasPlainTexts) :
    Shows (format.issueChars codes path issue)
    (format.withoutColor.issueChars codes path issue) := by
  have number : ∀ n : Nat, Shows (':' :: (toString n).toList) (':' :: (toString n).toList) :=
    fun n => (plain_toString n).shows.cons (by decide)
  have place := (plainPath.shows.append (number issue.position.start.line)).append
    (number issue.position.start.column)
  unfold issueChars
  refine ((((place.append ?severity).append ?rule).append ?message).append ?code).append ?close
  case severity =>
    exact ((format.shows_paint codes (plain_word issue.severity) _).cons (by decide)).cons
      (by decide)
  case rule => exact (format.shows_paint codes plain.plain_rule _).cons (by decide)
  case message =>
    exact ((plain.plain_message.shows.cons (by decide)).cons (by decide)).cons (by decide)
  case code => exact (plain.plain_code.shows.cons (by decide)).cons (by decide)
  case close => exact Plain.shows (by decide)

theorem shows_fileChars {file : FileReport} (plain : file.HasPlainTexts) :
    Shows (format.fileChars codes file) (format.withoutColor.fileChars codes file) := by
  unfold fileChars
  split
  · exact shows_nil
  · have path := format.shows_paint codes plain.plain_path .underline
    have lines := shows_flatMap fun issue mem =>
      (format.shows_issueChars codes plain.plain_path (plain.issue mem)).append
        (Plain.shows (by decide : Plain ['\n']))
    exact (path.append (lines.cons (by decide))).append (Plain.shows (by decide))

theorem shows_inColor {text : List Char} (plain : Plain text) (color : Color) :
    Shows (inColor codes color.number text) text := by
  rw [← paint_eq_inColor plain]
  exact plain.shows_paint codes (.colored color)

/-- Without codes, the line with the totals is told in the same words. -/
theorem shows_totalsLine (files errors warnings : Nat) :
    Shows (totalsLine codes files errors warnings) (totalsLine false files errors warnings) := by
  have processed : Plain (countWords files "file" ++ " processed".toList) := by
    rw [plain_append_iff]
    exact ⟨plain_countWords files (by decide), by decide⟩
  have errorWords :=
    shows_inColor codes (plain_countWords errors (by decide : Plain "error".toList)) .red
  have warningWords :=
    shows_inColor codes (plain_countWords warnings (by decide : Plain "warning".toList)) .yellow
  have behind {mark : Char} (other : mark ≠ escape) {written shown : List Char}
      (shows : Shows written shown) : Shows (mark :: ' ' :: written) (mark :: ' ' :: shown) :=
    (shows.cons (by decide)).cons other
  unfold totalsLine
  apply processed.shows.append
  split
  · exact shows_nil
  · exact behind (by decide) errorWords
  · exact behind (by decide) warningWords
  · exact (behind (by decide) errorWords).append (behind (by decide) warningWords)

theorem shows_statsChars (files : List FileReport) :
    Shows (format.statsChars codes files) (format.withoutColor.statsChars codes files) := by
  rw [statsChars_eq, statsChars_eq]
  change Shows _ (if format.showStats then _ else _)
  split
  · exact (shows_totalsLine _ _ _ _).append (Plain.shows (by decide))
  · exact shows_nil

theorem shows_format {files : List FileReport} (plain : ∀ file ∈ files, file.HasPlainTexts) :
    Shows (format.format codes files).toList (format.withoutColor.format codes files).toList := by
  unfold TextFormat.format
  rw [String.toList_ofList, String.toList_ofList]
  have parts := shows_flatMap fun file mem => format.shows_fileChars codes (plain file mem)
  exact parts.append (format.shows_statsChars codes files)

/-! ## Terminals without codes -/

theorem paint_false_eq : format.paint false = format.withoutColor.paint false := by
  funext style text
  rw [paint, paint, Bool.and_false, Bool.and_false]

theorem issueChars_false_eq : format.issueChars false = format.withoutColor.issueChars false := by
  funext path issue
  rw [issueChars, issueChars, paint_false_eq]

theorem format_false_eq (files : List FileReport) :
    format.format false files = format.withoutColor.format false files := by
  have parts : format.fileChars false = format.withoutColor.fileChars false := by
    funext file
    rw [fileChars, fileChars, paint_false_eq, issueChars_false_eq]
  have totals : format.statsChars false files = format.withoutColor.statsChars false files := by
    rw [statsChars_eq, statsChars_eq, Bool.and_false, Bool.and_false]
    rfl
  rw [TextFormat.format, TextFormat.format, parts, totals]

/-! ## Where codes are written -/

section Colored

variable {format} (colored : format.colored = true)
include colored

theorem escape_mem_paint (style : Style) (text : String) :
    escape ∈ format.paint true style text := by
  rw [paint, colored, Bool.and_true, Terminal.paint, if_pos rfl]
  exact List.mem_append_left _ (List.mem_append_left _ List.mem_cons_self)

theorem escape_mem_issueChars (path : String) (issue : Issue) :
    escape ∈ format.issueChars true path issue := by
  have severity := escape_mem_paint colored (severityStyle issue.severity) issue.severity.word
  simp [issueChars, severity]

theorem escape_mem_format {files : List FileReport} {file : FileReport} (mem : file ∈ files)
    (found : file.report.isClean = false) : escape ∈ (format.format true files).toList := by
  have path : escape ∈ format.fileChars true file := by
    rw [fileChars, found]
    exact List.mem_append_left _
      (List.mem_append_left _ (escape_mem_paint colored .underline file.path))
  rw [TextFormat.format, String.toList_ofList]
  exact List.mem_append_left _ (List.mem_flatMap.mpr ⟨file, mem, path⟩)

end Colored

end TextFormat

/-- Taking the codes out of a coloured report leaves the report of the format without colours,
whether or not the totals are shown, and the same holds of a single issue; where no codes are
taken, the two are equal as they are. This is not for lack of colours: the report of a file with
issues has codes in it, and so has an issue. -/
theorem colors_keep_text (format : TextFormat) :
    (∀ (codes : Bool) (files : List FileReport), (∀ file ∈ files, file.HasPlainTexts) →
      withoutCodes (format.format codes files).toList =
        (format.withoutColor.format codes files).toList) ∧
    (∀ (codes : Bool) (path : String) (issue : Issue), Plain path.toList → issue.HasPlainTexts →
      withoutCodes (format.formatIssue codes path issue).toList =
        (format.withoutColor.formatIssue codes path issue).toList) ∧
    (∀ files : List FileReport,
      format.format false files = format.withoutColor.format false files) ∧
    (∀ (path : String) (issue : Issue),
      format.formatIssue false path issue = format.withoutColor.formatIssue false path issue) ∧
    (format.colored = true →
      (∀ files : List FileReport, (∃ file ∈ files, file.report.isClean = false) →
        escape ∈ (format.format true files).toList) ∧
      ∀ (path : String) (issue : Issue),
        escape ∈ (format.formatIssue true path issue).toList) := by
  refine ⟨?files, ?issue, format.format_false_eq, ?plainIssue, ?colored⟩
  case files =>
    intro codes files plain
    exact (format.shows_format codes plain).withoutCodes_eq
  case issue =>
    intro codes path issue plainPath plain
    rw [TextFormat.formatIssue, TextFormat.formatIssue, String.toList_ofList, String.toList_ofList]
    exact (format.shows_issueChars codes plainPath plain).withoutCodes_eq
  case plainIssue =>
    intro path issue
    rw [TextFormat.formatIssue, TextFormat.formatIssue, format.issueChars_false_eq]
  case colored =>
    intro colored
    constructor
    · rintro files ⟨file, mem, found⟩
      exact TextFormat.escape_mem_format colored mem found
    · intro path issue
      rw [TextFormat.formatIssue, String.toList_ofList]
      exact TextFormat.escape_mem_issueChars colored path issue

/-- An issue without a rule name, with texts that look like the rest of a code. -/
def codeLikeIssue : Issue :=
  ⟨"", "E030", .point 1 1, .error,
    some [("open", .object [("chars", .string "[0m"), ("more", .array [.string "1;31m", .null])])]⟩

/-- A file with a path that looks like the rest of a code and one without a path. -/
def codeLikeFiles : List FileReport :=
  [.ofIssues "[31m" [codeLikeIssue, codeLikeIssue], .ofIssues "" [codeLikeIssue]]

/-- Texts that look like the rest of a code stay where they are. -/
theorem colors_keep_text_code_like :
    (∀ file ∈ codeLikeFiles, file.HasPlainTexts) ∧
    withoutCodes (TextFormat.standard.format true codeLikeFiles).toList =
      (TextFormat.standard.withoutColor.format true codeLikeFiles).toList ∧
    escape ∈ (TextFormat.standard.format true codeLikeFiles).toList ∧
    withoutCodes (TextFormat.standard.formatIssue true "[31m" codeLikeIssue).toList =
      "[31m:1:1: error[]: Closing tag does not match opening tag \"[0m\" (E030)".toList := by
  rcases colors_keep_text TextFormat.standard with ⟨ofFiles, ofIssue, -, -, colored⟩
  have path : Plain "[31m".toList := by decide
  have issue : codeLikeIssue.HasPlainTexts := by decide +kernel
  have plain : ∀ file ∈ codeLikeFiles, file.HasPlainTexts := by decide +kernel
  refine ⟨plain, ofFiles true codeLikeFiles plain, ?_, ?_⟩
  · exact (colored rfl).1 codeLikeFiles ⟨_, List.mem_cons_self, rfl⟩
  · rw [ofIssue true _ codeLikeIssue path issue]
    decide +kernel

end MarkupLint
