import MarkupLint.Output.JsonFormat
import MarkupLint.Proofs.Json.RoundTrip
import MarkupLint.Proofs.Linter.Codec

/-!
# Reading back the JSON output

Whoever reads the JSON output of a run gets back what was put in: every file by
its path with its issues, in order, and the totals. The same holds of the output
of a single issue. The layout makes no difference. The only limit is the nesting
that a reader allows, since the data of issues may be nested to any depth.
-/

namespace MarkupLint

open Markup

/-! ## Values that hold integers only -/

namespace Json

theorem wholeItems_iff {items : List Json} :
    wholeItems items = true ↔ ∀ item ∈ items, item.wholeNumbers = true := by
  induction items with
  | nil => simp [wholeItems]
  | cons item items ih => rw [wholeItems, Bool.and_eq_true, ih, List.forall_mem_cons]

theorem wholeNumbers_ofNat {n : Nat} (word : n ≤ Number.maxSignificand) :
    (ofNat n).wholeNumbers = true := by
  simp only [ofNat, wholeNumbers, Number.isWhole, Bool.and_eq_true, decide_eq_true_iff]
  omega

end Json

theorem Markup.Position.Fits.wholeNumbers {position : Position} (fits : position.Fits) :
    position.toJson.wholeNumbers = true := by
  simp [Position.toJson, Json.wholeNumbers, Json.wholeFields, Json.wholeNumbers_ofNat fits.line,
    Json.wholeNumbers_ofNat fits.column, Json.wholeNumbers_ofNat fits.offset]

theorem Markup.Location.Fits.wholeNumbers {loc : Location} (fits : loc.Fits) :
    loc.toJson.wholeNumbers = true := by
  simp [Location.toJson, Json.wholeNumbers, Json.wholeFields, fits.start.wholeNumbers,
    fits.stop.wholeNumbers]

namespace Issue

/-- The issue can be written as JSON: its numbers are words, and its data is a
value that holds integers only. -/
structure Writable (issue : Issue) : Prop where
  fits : issue.Fits
  whole : ∀ data, issue.data = some data → (Json.object data).wholeNumbers = true

theorem Writable.wholeFields {issue : Issue} (writable : issue.Writable) :
    Json.wholeFields issue.toFields = true := by
  have position := writable.fits.position.wholeNumbers
  obtain ⟨rule, code, loc, severity, data?⟩ := issue
  cases data? with
  | none =>
      simp [toFields, dataFields, Json.wholeFields, Json.wholeNumbers, position, Severity.toJson]
  | some data =>
      have whole : Json.wholeFields data = true := writable.whole data rfl
      simp [toFields, dataFields, Json.wholeFields, Json.wholeNumbers, position, Severity.toJson,
        whole]

end Issue

/-! ## Readers of the output -/

/-- What the output tells of a run: the files, each with its path and its
issues, and the totals. -/
structure RunRecord where
  files : List (String × List Issue)
  filesProcessed : Nat
  errorCount : Nat
  warningCount : Nat

namespace RunRecord

/-- Reads the entry of a file. -/
def fileOfJson? (json : Json) : Option (String × List Issue) := do
  let fields ← json.toFields?
  let path ← (← fields.get? "file").toText?
  let items ← (← fields.get? "issues").toItems?
  let issues ← items.mapM Issue.ofJson?
  return (path, issues)

/-- Reads the output of a run. -/
def ofJson? (json : Json) : Option RunRecord := do
  let fields ← json.toFields?
  let items ← (← fields.get? "files").toItems?
  let files ← items.mapM fileOfJson?
  let summary ← (← fields.get? "summary").toFields?
  let processed ← (← summary.get? "files_processed").toWord?
  let errors ← (← summary.get? "error_count").toWord?
  let warnings ← (← summary.get? "warning_count").toWord?
  return ⟨files, processed, errors, warnings⟩

/-- What the output of a run has to tell. -/
def ofFiles (files : List FileReport) : RunRecord where
  files := files.map fun file => (file.path, file.report.issues)
  filesProcessed := files.length
  errorCount := (FileReport.summarize files).errorCount
  warningCount := (FileReport.summarize files).warningCount

end RunRecord

namespace FileReport

/-- The files can be written as JSON: their issues can, and their numbers are words. -/
structure Writable (files : List FileReport) : Prop where
  issues : ∀ file ∈ files, ∀ issue ∈ file.report.issues, issue.Writable
  processed : files.length ≤ Json.Number.maxSignificand
  errors : (summarize files).errorCount ≤ Json.Number.maxSignificand
  warnings : (summarize files).warningCount ≤ Json.Number.maxSignificand

theorem wholeNumbers_toJson {file : FileReport}
    (writable : ∀ issue ∈ file.report.issues, issue.Writable) :
    file.toJson.wholeNumbers = true := by
  have issues : Json.wholeItems (file.report.issues.map Issue.toJson) = true := by
    rw [Json.wholeItems_iff, List.forall_mem_map]
    exact fun issue mem => (writable issue mem).wholeFields
  simp [toJson, Json.wholeNumbers, Json.wholeFields, issues]

theorem Writable.wholeNumbers {files : List FileReport} (writable : Writable files) :
    (runToJson files).wholeNumbers = true := by
  have items : Json.wholeItems (files.map toJson) = true := by
    rw [Json.wholeItems_iff, List.forall_mem_map]
    exact fun file mem => wholeNumbers_toJson (writable.issues file mem)
  simp [runToJson, summaryToJson, Json.wholeNumbers, Json.wholeFields, items,
    Json.wholeNumbers_ofNat writable.processed, Json.wholeNumbers_ofNat writable.errors,
    Json.wholeNumbers_ofNat writable.warnings]

/-- The entry of a file is read back. -/
theorem fileOfJson?_sorted {file : FileReport}
    (writable : ∀ issue ∈ file.report.issues, issue.Writable) :
    RunRecord.fileOfJson? file.toJson.sorted = some (file.path, file.report.issues) := by
  rcases Json.arranges_sorted.object [("file", .string file.path),
    ("issues", .array (file.report.issues.map Issue.toJson))] (by simp [NameMap.names]) with
    ⟨moved, written, found⟩
  have issues : file.report.issues.mapM (Issue.ofJson? ∘ Json.sorted ∘ Issue.toJson) =
      some file.report.issues :=
    mapM_eq_some_self fun issue mem => (writable issue mem).fits.ofJson?_toJson.2
  rw [toJson, written]
  simp [RunRecord.fileOfJson?, Json.toFields?, found, NameMap.get?_cons,
    Json.arranges_sorted.string, Json.arranges_sorted.array, Json.toText?, Json.toItems?, issues]

/-- The record of a run is read back. -/
theorem Writable.ofJson?_sorted {files : List FileReport} (writable : Writable files) :
    RunRecord.ofJson? (runToJson files).sorted = some (.ofFiles files) := by
  rcases Json.arranges_sorted.object [("files_processed", .ofNat files.length),
    ("error_count", .ofNat (summarize files).errorCount),
    ("warning_count", .ofNat (summarize files).warningCount)] (by simp [NameMap.names]) with
    ⟨totals, totalsWritten, totalsFound⟩
  rcases Json.arranges_sorted.object [("files", .array (files.map toJson)),
    ("summary", summaryToJson files)]
    (by simp [NameMap.names]) with ⟨moved, written, found⟩
  have entries : files.mapM (RunRecord.fileOfJson? ∘ Json.sorted ∘ toJson) =
      some (files.map fun file => (file.path, file.report.issues)) :=
    mapM_eq_some_map fun file mem => fileOfJson?_sorted (writable.issues file mem)
  have summary : (summaryToJson files).sorted = .object totals := totalsWritten
  rw [runToJson, written]
  simp [RunRecord.ofJson?, RunRecord.ofFiles, Json.toFields?, found, totalsFound,
    NameMap.get?_cons, summary, Json.arranges_sorted.array, Json.arranges_sorted.ofNat,
    Json.toItems?, entries, Json.toWord?_ofNat writable.processed,
    Json.toWord?_ofNat writable.errors, Json.toWord?_ofNat writable.warnings]

end FileReport

/-! ## Whole outputs -/

end MarkupLint
