import MarkupLint.Issue
import MarkupLint.Proofs.Markup.NodeCodec

/-!
# Reading back trees and issues

An issue is written as a record whose last field, the data, is left out if there
is none. The data is carried through as it is: reading gives back the same
object, and so the same issue. Together with the trees of documents, whatever is
written is read back, and whatever is read can be written and read once more.
-/

namespace MarkupLint

open Markup

variable {arrange : Json → Json}

theorem Severity.ofJson?_arranged (arranges : Json.Arranges arrange) (severity : Severity) :
    Severity.ofJson? (arrange severity.toJson) = some severity := by
  rw [toJson, arranges.string]
  cases severity <;> rfl

namespace Issue

/-- The numbers of the issue are words, and its data, if there is any, is a value. -/
structure Fits (issue : Issue) : Prop where
  position : issue.position.Fits
  data : ∀ data, issue.data = some data → (Json.object data).Canonical

theorem toFields_names_nodup (issue : Issue) : issue.toFields.names.Nodup := by
  rcases issue with ⟨rule, code, position, severity, _ | data⟩ <;>
    simp [toFields, dataFields, NameMap.names]

/-- The data of an issue is read back, if the arrangement leaves it as it is. -/
theorem optional?_dataOfJson?_arranged (arranges : Json.Arranges arrange)
    {data? : Option Json.Fields}
    (kept : ∀ data, data? = some data → arrange (.object data) = .object data) :
    Json.optional? dataOfJson? ((NameMap.get? (dataFields data?) "meta").map arrange) =
      some data? := by
  cases data? with
  | none => rfl
  | some data =>
      obtain ⟨moved, written, found⟩ :=
        arranges.object [("data", .object data)] (by simp [NameMap.names])
      have inner : moved.get? "data" = some (.object data) := by
        rw [found, NameMap.get?_cons, if_pos rfl, Option.map_some, kept data rfl]
      simp [dataFields, NameMap.get?_cons, written, Json.optional?, dataOfJson?, Json.toFields?,
        inner]

/-- An issue is read back from the fields of its record, whatever stands beside them, if the
arrangement leaves its data as it is. -/
theorem ofJson?_object (arranges : Json.Arranges arrange) {issue : Issue}
    (fits : issue.position.Fits)
    (kept : ∀ data, issue.data = some data → arrange (.object data) = .object data)
    {fields : Json.Fields}
    (found : ∀ name ∈ ["rule", "code", "position", "severity", "meta"],
      fields.get? name = (issue.toFields.get? name).map arrange) :
    Issue.ofJson? (.object fields) = some issue := by
  have data : fields.get? "meta" = (NameMap.get? (dataFields issue.data) "meta").map arrange := by
    simp [found, toFields, NameMap.get?_cons]
  simp [ofJson?, Json.toFields?, data, optional?_dataOfJson?_arranged arranges kept]
  simp [found, toFields, NameMap.get?_cons, arranges.string, Json.toText?,
    Location.ofJson?_arranged arranges fits, Severity.ofJson?_arranged arranges]

/-- An issue is read back from its record, if the arrangement leaves its data as it is. -/
theorem ofJson?_arranged (arranges : Json.Arranges arrange) {issue : Issue}
    (fits : issue.position.Fits)
    (kept : ∀ data, issue.data = some data → arrange (.object data) = .object data) :
    Issue.ofJson? (arrange issue.toJson) = some issue := by
  obtain ⟨moved, written, found⟩ := arranges.object issue.toFields issue.toFields_names_nodup
  rw [toJson, written]
  exact ofJson?_object arranges fits kept fun name _ => found name

theorem Fits.ofJson?_toJson {issue : Issue} (fits : issue.Fits) :
    Issue.ofJson? issue.toJson = some issue ∧ Issue.ofJson? issue.toJson.sorted = some issue := by
  constructor
  · exact ofJson?_arranged Json.arranges_id fits.position fun data _ => rfl
  · refine ofJson?_arranged Json.arranges_sorted fits.position ?_
    exact fun data some => Json.sorted_of_canonical _ (fits.data data some)

/-- Data is read from an object inside an object. -/
theorem exists_of_optional?_dataOfJson? {json? : Option Json} {data : Json.Fields}
    (read : Json.optional? dataOfJson? json? = some (some data)) :
    ∃ fields : Json.Fields, json? = some (.object fields) ∧
      fields.get? "data" = some (.object data) := by
  rcases json? with _ | json
  · cases read
  · cases json with
    | object fields =>
        simp only [Json.optional?, dataOfJson?, Json.toFields?, bind, Option.bind_some,
          Option.map_eq_some_iff, Option.bind_eq_some_iff, Option.some.injEq,
          exists_eq_right] at read
        obtain ⟨value, found, valueRead⟩ := read
        refine ⟨fields, rfl, ?_⟩
        cases value with
        | object inner =>
            cases valueRead
            exact found
        | null | bool | number | string | array => cases valueRead
    | null | bool | number | string | array => cases read

/-- What is read as an issue from a value has words for numbers and a value for data. -/
theorem fits_of_ofJson? {json : Json} (canonical : json.Canonical) {issue : Issue}
    (read : Issue.ofJson? json = some issue) : issue.Fits := by
  cases json with
  | null | bool | number | string | array => cases read
  | object fields =>
      simp only [ofJson?, Json.toFields?, bind, pure, Option.bind_eq_some_iff, Option.some.injEq,
        exists_eq_left'] at read
      obtain ⟨_, _, rule, _, _, _, code, _, _, _, position, positionRead, _, _, severity, _, data?,
        dataRead, rfl⟩ := read
      refine ⟨Location.fits_of_ofJson? positionRead, ?_⟩
      rintro data rfl
      obtain ⟨inner, metaFound, dataFound⟩ := exists_of_optional?_dataOfJson? dataRead
      exact (canonical.2.get? metaFound).2.get? dataFound

end Issue

/-- Every tree and every issue is read back from what was written of it, both
from its record and from the value that the record stands for. What is read as
a tree or an issue can be written and is then read as the same. -/
theorem reading_undoes_writing :
    (∀ node : Node, node.Fits →
      Node.ofJson? node.toJson = some node ∧ Node.ofJson? node.toJson.sorted = some node) ∧
    (∀ issue : Issue, issue.Fits →
      Issue.ofJson? issue.toJson = some issue ∧ Issue.ofJson? issue.toJson.sorted = some issue) ∧
    (∀ (json : Json) (node : Node), Node.ofJson? json = some node →
      Node.ofJson? node.toJson = some node ∧ Node.ofJson? node.toJson.sorted = some node) ∧
    (∀ (json : Json) (issue : Issue), json.Canonical → Issue.ofJson? json = some issue →
      Issue.ofJson? issue.toJson = some issue ∧
      Issue.ofJson? issue.toJson.sorted = some issue) := by
  have nodes : ∀ node : Node, node.Fits →
      Node.ofJson? node.toJson = some node ∧ Node.ofJson? node.toJson.sorted = some node :=
    fun node fits => ⟨Node.ofJson?_arranged Json.arranges_id node fits,
      Node.ofJson?_arranged Json.arranges_sorted node fits⟩
  refine ⟨nodes, fun issue fits => fits.ofJson?_toJson, ?_, ?_⟩
  · intro json node read
    exact nodes node (Node.fits_of_ofJson? read)
  · intro json issue canonical read
    exact (Issue.fits_of_ofJson? canonical read).ofJson?_toJson

/-- A closed element around a comment, with an attribute without value, marks
that do not agree with the text and the largest offset; and an issue read from
a value without offsets and with a field that is not known. -/
theorem reading_undoes_writing_unmarked :
    (∃ node : Node, node.Fits ∧ node.children.map Node.label = ["¤"] ∧
      node.tag?.map (·.closing.map (·.loc.stop.offset)) = some (some 18446744073709551615) ∧
      node.tag?.map (·.opening.isPlaceholder) = some true ∧
      Node.ofJson? node.toJson = some node ∧ Node.ofJson? node.toJson.sorted = some node) ∧
    ∃ (json : Json) (issue : Issue), json.Canonical ∧ Issue.ofJson? json = some issue ∧
      json.get? "note" = some .null ∧ issue.data.map NameMap.names = some ["lang"] ∧
      Issue.ofJson? issue.toJson = some issue ∧
      Issue.ofJson? issue.toJson.sorted = some issue := by
  obtain ⟨nodes, issues, nodesRead, issuesRead⟩ := reading_undoes_writing
  constructor
  · refine ⟨.element ⟨"p", [⟨⟨"b", .point 1 4, false⟩, none, .point 1 4⟩], ⟨"P", .point 1 2, true⟩,
      some ⟨"p", ⟨⟨1, 9, 8⟩, ⟨1, 10, 18446744073709551615⟩⟩, false⟩, .point 1 1⟩
      [.comment ⟨"¤", .point 1 6, false⟩], ?fits, rfl, rfl, rfl, nodes _ ?fits⟩
    decide +kernel
  · let place : Json := .object [("column", .ofNat 2), ("line", .ofNat 1)]
    let json : Json := .object [("code", .string "E038"),
      ("meta", .object [("data", .object [("lang", .array [.null])])]), ("note", .null),
      ("position", .object [("end", place), ("start", place)]), ("rule", .string "lang-style"),
      ("severity", .string "warning")]
    have canonical : json.Canonical := by decide +kernel
    exact ⟨json, ⟨"lang-style", "E038", .point 1 2, .warning, some [("lang", .array [.null])]⟩,
      canonical, rfl, rfl, rfl, issuesRead json _ canonical rfl⟩

end MarkupLint
