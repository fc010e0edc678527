import MarkupLint.Output.JsonFormat
import MarkupLint.Output.TextFormat
import MarkupLint.Proofs.Json.ScalarText
import MarkupLint.Proofs.Terminal.Codes

/-!
# Totals of reports

The counts of a report are kept beside its issues and are added up when reports are merged. However
reports are merged, the result is the report of all their issues in order, so the counts stay exact
and the exit code can be read off them. The totals over files are such a merge, and both formats
print them: the last line of the text has them in words (`TextFormat.totalsLine`), and the JSON
output ends in an object with their digits (`JsonFormat.runText`).
-/

namespace MarkupLint

namespace Report

/-! ## Merging -/

/-- How a report comes about: without issues, from a list of issues, or by merging two reports. -/
inductive Merging where
  | empty
  | ofIssues (found : List Issue)
  | merge (first second : Merging)

namespace Merging

/-- The report that comes about. -/
def report : Merging → Report
  | .empty => .empty
  | .ofIssues found => .ofIssues found
  | .merge first second => first.report.merge second.report

/-- The issues that were put in, in the order of merging. -/
def allIssues : Merging → List Issue
  | .empty => []
  | .ofIssues found => found
  | .merge first second => first.allIssues ++ second.allIssues

end Merging

@[simp]
theorem merge_empty (report : Report) : report.merge .empty = report := by
  simp [merge, empty]

@[simp]
theorem empty_merge (report : Report) : empty.merge report = report := by
  simp [merge, empty]

theorem merge_assoc (first second third : Report) :
    (first.merge second).merge third = first.merge (second.merge third) := by
  simp [merge, Nat.add_assoc]

/-- Merging the reports of two lists gives the report of the lists one behind the other. -/
theorem merge_ofIssues (first second : List Issue) :
    (ofIssues first).merge (ofIssues second) = ofIssues (first ++ second) := by
  have firstLe := List.countP_le_length (p := Issue.isError) (l := first)
  have secondLe := List.countP_le_length (p := Issue.isError) (l := second)
  simp only [merge, ofIssues, List.countP_append, List.length_append, mk.injEq, true_and]
  omega

theorem Merging.report_eq (merging : Merging) : merging.report = .ofIssues merging.allIssues := by
  induction merging with
  | empty => rfl
  | ofIssues found => rfl
  | merge first second firstExact secondExact =>
      rw [report, firstExact, secondExact, merge_ofIssues, allIssues]

/-! ## Counts and exit codes -/

/-- The counts of the report are those of the issues, and its verdicts agree with its exit code. -/
structure Tallies (report : Report) (found : List Issue) : Prop where
  issues : report.issues = found
  errors : report.errorCount = found.countP Issue.isError
  warnings : report.warningCount = found.countP Issue.isWarning
  total : report.errorCount + report.warningCount = found.length
  clean : report.isClean = true ↔ report.exitCode = 0
  failing : report.hasErrors = true ↔ report.exitCode = 2

/-- An issue is a warning exactly if it is no error. -/
theorem isWarning_eq_not_isError (issue : Issue) : issue.isWarning = !issue.isError := by
  obtain ⟨rule, code, position, severity, data⟩ := issue
  cases severity <;> rfl

theorem countP_isWarning (issues : List Issue) :
    issues.countP Issue.isWarning = issues.length - issues.countP Issue.isError := by
  have split := List.length_eq_countP_add_countP Issue.isError (l := issues)
  have others : issues.countP Issue.isWarning = issues.countP fun issue => !issue.isError :=
    List.countP_congr fun issue _ => by rw [isWarning_eq_not_isError]
  simp only [Bool.not_eq_true, Bool.decide_eq_false] at split
  omega

theorem exitCode_eq_zero_iff (report : Report) :
    report.exitCode = 0 ↔ report.errorCount = 0 ∧ report.warningCount = 0 := by
  simp only [exitCode]
  split
  · omega
  · split <;> omega

theorem hasErrors_iff (report : Report) : report.hasErrors = true ↔ report.exitCode = 2 := by
  simp only [hasErrors, exitCode, decide_eq_true_eq]
  split
  · simpa
  · split <;> simp_all

theorem tallies_ofIssues (issues : List Issue) : (ofIssues issues).Tallies issues := by
  have total : (ofIssues issues).errorCount + (ofIssues issues).warningCount = issues.length := by
    have le := List.countP_le_length (p := Issue.isError) (l := issues)
    simp only [ofIssues]
    omega
  refine ⟨rfl, rfl, (countP_isWarning issues).symm, total, ?_, hasErrors_iff _⟩
  rw [exitCode_eq_zero_iff, isClean, List.isEmpty_iff_length_eq_zero]
  change issues.length = 0 ↔ _
  omega

/-- The exit code of merged reports is the greater one. -/
theorem exitCode_merge (first second : Report) :
    (first.merge second).exitCode = max first.exitCode second.exitCode := by
  simp only [exitCode, merge]
  grind

end Report

/-! ## Files -/

namespace FileReport

theorem foldl_merge_eq (files : List FileReport) (start : Report) :
    files.foldl (fun total file => total.merge file.report) start =
      start.merge (summarize files) := by
  induction files generalizing start with
  | nil => exact start.merge_empty.symm
  | cons file files ih =>
      rw [summarize, List.foldl_cons, List.foldl_cons, ih, ih, Report.merge_assoc,
        Report.empty_merge]

/-- The totals over files are those of the first one merged with those over the others. -/
theorem summarize_cons (file : FileReport) (files : List FileReport) :
    summarize (file :: files) = file.report.merge (summarize files) := by
  rw [summarize, List.foldl_cons, foldl_merge_eq, Report.empty_merge]

/-- The report of a file that came about by merging. -/
def ofMerging (file : String × Report.Merging) : FileReport :=
  ⟨file.1, file.2.report⟩

/-- The totals over files whose reports were merged are the report of all their issues. -/
theorem summarize_ofMerging (files : List (String × Report.Merging)) :
    summarize (files.map ofMerging) = .ofIssues (files.flatMap fun file => file.2.allIssues) := by
  induction files with
  | nil => rfl
  | cons file files ih =>
      rw [List.map_cons, summarize_cons, ih, List.flatMap_cons, ofMerging, file.2.report_eq,
        Report.merge_ofIssues]

/-- The exit code of the totals is the greatest one of a file. -/
theorem exitCode_summarize (files : List FileReport) :
    (summarize files).exitCode = (files.map fun file => file.report.exitCode).max?.getD 0 := by
  induction files with
  | nil => rfl
  | cons file files ih =>
      rw [summarize_cons, Report.exitCode_merge, ih, List.map_cons, List.max?_cons]
      cases (files.map fun file => file.report.exitCode).max? <;> simp

end FileReport

/-! ## The last line of the text -/

namespace TextFormat

open Terminal

/-- The digits of a count and the name of what was counted, with an s unless it is one. -/
def countWords (count : Nat) (name : String) : List Char :=
  Nat.toDigits 10 count ++ ' ' :: name.toList ++ if count = 1 then [] else ['s']

/-- A text in the colour of a number, between the code that starts it and the one that ends it; the
text alone if there are no codes. -/
def inColor (codes : Bool) (number : String) (text : List Char) : List Char :=
  if codes then
    '\x1b' :: '[' :: number.toList ++ 'm' :: text ++ ['\x1b', '[', '0', 'm']
  else text

/-- The line with the totals: the number of files, and each count that is not zero. -/
def totalsLine (codes : Bool) (files errors warnings : Nat) : List Char :=
  let errorWords := inColor codes "31" (countWords errors "error")
  let warningWords := inColor codes "33" (countWords warnings "warning")
  countWords files "file" ++ " processed".toList ++
    match errors, warnings with
    | 0, 0 => []
    | _, 0 => ':' :: ' ' :: errorWords
    | 0, _ => ':' :: ' ' :: warningWords
    | _, _ => ':' :: ' ' :: errorWords ++ ',' :: ' ' :: warningWords

theorem toList_counted (count : Nat) (name : String) :
    (counted count name).toList = countWords count name := by
  rw [counted, countWords]
  split <;> simp [Nat.toString_eq_repr]

theorem plain_countWords (count : Nat) {name : String} (plain : Plain name.toList) :
    Plain (countWords count name) := by
  rw [countWords, plain_append_iff, plain_append_iff, plain_cons_iff]
  refine ⟨⟨plain_toDigits count, by decide, plain⟩, ?_⟩
  split <;> decide

theorem paint_eq_inColor {text : List Char} (plain : Plain text) (codes : Bool) (color : Color) :
    Terminal.paint codes (.colored color) text = inColor codes color.number text := by
  cases codes with
  | false => rfl
  | true =>
      rw [Terminal.paint, if_pos rfl, plain.renew_eq]
      cases color <;> rfl

/-- A count is set in its colour. -/
theorem paint_counted (format : TextFormat) (codes : Bool) (color : Color) (count : Nat)
    {name : String} (plain : Plain name.toList) :
    format.paint codes (.colored color) (counted count name) =
      inColor (format.colored && codes) color.number (countWords count name) := by
  rw [paint, toList_counted, paint_eq_inColor (plain_countWords count plain)]

theorem statsChars_eq (format : TextFormat) (codes : Bool) (files : List FileReport) :
    format.statsChars codes files = if format.showStats then
      totalsLine (format.colored && codes) files.length
        (FileReport.summarize files).errorCount (FileReport.summarize files).warningCount ++ ['\n']
    else [] := by
  have plainError : Plain "error".toList := by decide
  have plainWarning : Plain "warning".toList := by decide
  unfold statsChars totalsLine
  split
  · rw [totalsChars, String.toList_append, toList_counted]
    -- Which counts are told depends on which are zero.
    cases (FileReport.summarize files).errorCount <;>
      cases (FileReport.summarize files).warningCount <;>
      simp [countChars, List.intercalate, paint_counted format codes _ _ plainError,
        paint_counted format codes _ _ plainWarning, Color.number]
  · rfl

example : totalsLine false 1 2 0 = "1 file processed: 2 errors".toList := by decide

/-- The characters are none, or end a line. -/
def EndsLine (chars : List Char) : Prop :=
  chars = [] ∨ chars.getLast? = some '\n'

theorem EndsLine.append {first second : List Char} (firstEnds : EndsLine first)
    (secondEnds : EndsLine second) : EndsLine (first ++ second) := by
  rcases secondEnds with rfl | last
  · rwa [List.append_nil]
  · exact Or.inr (by rw [List.getLast?_append, last, Option.some_or])

theorem fileChars_endsLine (format : TextFormat) (codes : Bool) (file : FileReport) :
    EndsLine (format.fileChars codes file) := by
  unfold fileChars
  split
  · exact Or.inl rfl
  · exact Or.inr List.getLast?_concat

theorem filesChars_endsLine (format : TextFormat) (codes : Bool) (files : List FileReport) :
    EndsLine (files.flatMap (format.fileChars codes)) := by
  induction files with
  | nil => exact Or.inl rfl
  | cons file files ih => exact (format.fileChars_endsLine codes file).append ih

end TextFormat

/-! ## The end of the JSON output -/

namespace Json

mutual

/-- What is written of a value does not depend on what follows. -/
theorem writeBefore_eq_append (layout : Layout) (level : Nat) (rest : List Char) (value : Json) :
    writeBefore layout level rest value = writeBefore layout level [] value ++ rest := by
  cases value with
  | null | bool | number | string => simp [writeBefore]
  | array items =>
      cases items with
      | nil => rfl
      | cons item items =>
          have later := writeItems_eq_append layout level rest items
          have whole :=
            writeBefore_eq_append layout (level + 1) (writeItems layout level rest items) item
          have alone :=
            writeBefore_eq_append layout (level + 1) (writeItems layout level [] items) item
          rw [writeBefore, writeBefore, whole, alone, later]
          simp
  | object fields =>
      cases fields with
      | nil => rfl
      | cons field fields =>
          rcases field with ⟨name, value⟩
          have later := writeFields_eq_append layout level rest fields
          have whole := writeBefore_eq_append layout (level + 1)
            (writeFields layout level rest fields) value
          have alone :=
            writeBefore_eq_append layout (level + 1) (writeFields layout level [] fields) value
          rw [writeBefore, writeBefore, whole, alone, later]
          simp

theorem writeItems_eq_append (layout : Layout) (level : Nat) (rest : List Char)
    (items : List Json) :
    writeItems layout level rest items = writeItems layout level [] items ++ rest := by
  cases items with
  | nil => simp [writeItems]
  | cons item items =>
      have later := writeItems_eq_append layout level rest items
      have whole :=
        writeBefore_eq_append layout (level + 1) (writeItems layout level rest items) item
      have alone :=
        writeBefore_eq_append layout (level + 1) (writeItems layout level [] items) item
      rw [writeItems, writeItems, whole, alone, later]
      simp

theorem writeFields_eq_append (layout : Layout) (level : Nat) (rest : List Char)
    (fields : List (String × Json)) :
    writeFields layout level rest fields = writeFields layout level [] fields ++ rest := by
  cases fields with
  | nil => simp [writeFields]
  | cons field fields =>
      rcases field with ⟨name, value⟩
      have later := writeFields_eq_append layout level rest fields
      have whole :=
        writeBefore_eq_append layout (level + 1) (writeFields layout level rest fields) value
      have alone :=
        writeBefore_eq_append layout (level + 1) (writeFields layout level [] fields) value
      rw [writeFields, writeFields, whole, alone, later]
      simp

end

theorem writeBefore_ofNat (layout : Layout) (level : Nat) (rest : List Char) (n : Nat) :
    writeBefore layout level rest (.ofNat n) = Nat.toDigits 10 n ++ rest :=
  congrArg (· ++ rest) (Number.write_ofNat n)

end Json

namespace JsonFormat

/-- In the pretty layout a new line that begins with blanks, in the compact one nothing. -/
def lineBreak (pretty : Bool) (blanks : Nat) : List Char :=
  if pretty then '\n' :: List.replicate blanks ' ' else []

/-- A field: its name between quotes, a colon, and its value. -/
def fieldText (pretty : Bool) (blanks : Nat) (name : String) (value : List Char) : List Char :=
  lineBreak pretty blanks ++ '"' :: name.toList ++ '"' :: ':' :: (if pretty then [' '] else []) ++
    value

/-- The object with the totals, each in its digits. -/
def totalsText (pretty : Bool) (files errors warnings : Nat) : List Char :=
  '\x7b' :: fieldText pretty 4 "files_processed" (Nat.toDigits 10 files) ++
    ',' :: fieldText pretty 4 "error_count" (Nat.toDigits 10 errors) ++
    ',' :: fieldText pretty 4 "warning_count" (Nat.toDigits 10 warnings) ++
    lineBreak pretty 2 ++ ['\x7d']

/-- The output of a run: an object with the listing of the files and the totals. -/
def runText (pretty : Bool) (listing : List Char) (files errors warnings : Nat) : List Char :=
  '\x7b' :: fieldText pretty 2 "files" listing ++
    ',' :: fieldText pretty 2 "summary" (totalsText pretty files errors warnings) ++
    lineBreak pretty 0 ++ ['\x7d']

/-- The layout of the output. -/
def layout (format : JsonFormat) : Json.Layout :=
  if format.pretty then .pretty else .compact

theorem toList_write (format : JsonFormat) (value : Json) :
    (format.write value).toList = Json.writeBefore format.layout 0 [] value := by
  unfold write layout
  split <;> exact String.toList_ofList

/-- A field whose name needs no escape is written as it is. -/
theorem field_eq_fieldText (format : JsonFormat) (level : Nat) {name : String}
    (unescaped : name.toList.flatMap Json.writeChar = name.toList) (value rest : List Char) :
    format.layout.gap level ++
        (Json.writeString name ++ ':' :: (format.layout.space ++ (value ++ rest))) =
      fieldText format.pretty (2 * level) name value ++ rest := by
  rcases format with ⟨_ | _⟩ <;>
    simp [layout, fieldText, lineBreak, Json.Layout.pretty, Json.Layout.compact,
      Json.writeString, unescaped]

theorem gap_eq_lineBreak (format : JsonFormat) (level : Nat) :
    format.layout.gap level = lineBreak format.pretty (2 * level) := by
  rcases format with ⟨_ | _⟩ <;> rfl

/-- The totals are written in front of what follows. -/
theorem writeBefore_summary (format : JsonFormat) (files : List FileReport) (rest : List Char) :
    Json.writeBefore format.layout 1 rest (FileReport.summaryToJson files) =
      totalsText format.pretty files.length (FileReport.summarize files).errorCount
        (FileReport.summarize files).warningCount ++ rest := by
  have processed : "files_processed".toList.flatMap Json.writeChar = "files_processed".toList := by
    decide
  have errors : "error_count".toList.flatMap Json.writeChar = "error_count".toList := by decide
  have warnings : "warning_count".toList.flatMap Json.writeChar = "warning_count".toList := by
    decide
  rw [FileReport.summaryToJson, Json.writeBefore, Json.writeBefore_ofNat,
    field_eq_fieldText format _ processed, Json.writeFields, Json.writeBefore_ofNat,
    field_eq_fieldText format _ errors, Json.writeFields, Json.writeBefore_ofNat,
    field_eq_fieldText format _ warnings, Json.writeFields, gap_eq_lineBreak]
  simp [totalsText]

/-- The whole output, around the listing of the files. -/
theorem toList_format (format : JsonFormat) (files : List FileReport) :
    (format.format files).toList = runText format.pretty
      (Json.writeBefore format.layout 1 [] (.array (files.map FileReport.toJson)))
      files.length (FileReport.summarize files).errorCount
      (FileReport.summarize files).warningCount := by
  have listing : "files".toList.flatMap Json.writeChar = "files".toList := by decide
  have summary : "summary".toList.flatMap Json.writeChar = "summary".toList := by decide
  rw [JsonFormat.format, toList_write, FileReport.runToJson, Json.writeBefore,
    Json.writeBefore_eq_append, field_eq_fieldText format _ listing, Json.writeFields,
    writeBefore_summary, field_eq_fieldText format _ summary, Json.writeFields, gap_eq_lineBreak]
  simp [runText]

example : totalsText false 2 1 10 =
    "\x7b\"files_processed\":2,\"error_count\":1,\"warning_count\":10\x7d".toList := by
  decide

end JsonFormat

/-- A report that was merged in any way is the report of all issues put in, with exact counts. The
totals over files whose reports were merged are again those of all issues, and the exit code is the
greatest one of a file; the latter holds of any counts whose sums are words. Both formats print the
totals: text on its last line, if it shows them at all, and JSON in the object at its end. -/
theorem report_totals_exact :
    (∀ merging : Report.Merging, merging.report = .ofIssues merging.allIssues ∧
      merging.report.Tallies merging.allIssues) ∧
    (∀ files : List (String × Report.Merging),
      FileReport.summarize (files.map FileReport.ofMerging) =
        .ofIssues (files.flatMap fun file => file.2.allIssues) ∧
      (FileReport.summarize (files.map FileReport.ofMerging)).exitCode =
        (files.map fun file => file.2.report.exitCode).max?.getD 0) ∧
    (∀ files : List FileReport,
      (FileReport.summarize files).errorCount ≤ Json.Number.maxSignificand →
      (FileReport.summarize files).warningCount ≤ Json.Number.maxSignificand →
      (FileReport.summarize files).exitCode =
        (files.map fun file => file.report.exitCode).max?.getD 0) ∧
    (∀ (format : TextFormat) (codes : Bool) (files : List FileReport),
      ∃ body, TextFormat.EndsLine body ∧
        (format.format codes files).toList = body ++
          if format.showStats then
            TextFormat.totalsLine (format.colored && codes) files.length
              (FileReport.summarize files).errorCount
              (FileReport.summarize files).warningCount ++ ['\n']
          else []) ∧
    ∀ (format : JsonFormat) (files : List FileReport), ∃ listing,
      (format.format files).toList = JsonFormat.runText format.pretty listing files.length
        (FileReport.summarize files).errorCount (FileReport.summarize files).warningCount := by
  refine ⟨?merged, ?totals, ?exit, ?text, ?json⟩
  case merged =>
    intro merging
    have same := merging.report_eq
    exact ⟨same, same ▸ Report.tallies_ofIssues merging.allIssues⟩
  case totals =>
    intro files
    refine ⟨FileReport.summarize_ofMerging files, ?_⟩
    rw [FileReport.exitCode_summarize, List.map_map]
    rfl
  case exit =>
    intro files _ _
    exact FileReport.exitCode_summarize files
  case text =>
    intro format codes files
    refine ⟨_, format.filesChars_endsLine codes files, ?_⟩
    rw [TextFormat.format, String.toList_ofList, TextFormat.statsChars_eq]
  case json =>
    intro format files
    exact ⟨_, format.toList_format files⟩

/-- The reports of two files, one that counts warnings only and one that counts errors only. -/
def countedFiles : List FileReport :=
  [⟨"a", ⟨[], 0, 3⟩⟩, ⟨"b", ⟨[], 2, 0⟩⟩]

/-- Errors in one file outweigh the warnings of another. -/
theorem report_totals_exact_errors :
    (FileReport.summarize countedFiles).errorCount ≤ Json.Number.maxSignificand ∧
      (FileReport.summarize countedFiles).warningCount ≤ Json.Number.maxSignificand ∧
      (FileReport.summarize countedFiles).exitCode = 2 := by
  have errors : (FileReport.summarize countedFiles).errorCount ≤ Json.Number.maxSignificand := by
    decide
  have warnings :
      (FileReport.summarize countedFiles).warningCount ≤ Json.Number.maxSignificand := by
    decide
  rcases report_totals_exact with ⟨-, -, exit, -⟩
  exact ⟨errors, warnings, exit countedFiles errors warnings⟩

end MarkupLint
