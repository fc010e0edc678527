import MarkupLint.Proofs.Linter.Builtin
import MarkupLint.Proofs.Linter.Suppression
import MarkupLint.Proofs.Markup.Elements
import MarkupLint.Proofs.Markup.ShiftedForest

/-!
# Issues move down with their text

Line breaks in front of a text move its issues down and change nothing else about them, whatever
the built-in rules are set to. The rules look at positions only to report them, and a directive
moves down together with the line that it takes effect on.
-/

namespace MarkupLint

open Markup

/-! ## Issues further down -/

/-- The fields with the value of one of them changed. -/
def Json.mapNamed (name : String) (change : Json → Json) (fields : Json.Fields) : Json.Fields :=
  fields.map fun field => if field.1 = name then (field.1, change field.2) else field

/-- An object with the value of one of its fields changed. -/
def Json.mapField (name : String) (change : Json → Json) : Json → Json
  | .object fields => .object (mapNamed name change fields)
  | json => json

/-- An integer, increased. -/
def Json.increase (count : Nat) : Json → Json
  | .number (.integer value) => .number (.integer (value + count))
  | json => json

namespace Markup

/-- A written position with its line and its offset increased. -/
def Position.shiftJson (count : Nat) (json : Json) : Json :=
  (json.mapField "line" (.increase count)).mapField "offset" (.increase count)

/-- A written location with both its ends further down. -/
def Location.shiftJson (count : Nat) (json : Json) : Json :=
  (json.mapField "start" (Position.shiftJson count)).mapField "end" (Position.shiftJson count)

/-- A written token further down. -/
def Token.shiftJson (count : Nat) (json : Json) : Json :=
  json.mapField "loc" (Location.shiftJson count)

theorem Position.sorted_toJson_shift (count : Nat) (position : Position) :
    (position.shift count).toJson.sorted = Position.shiftJson count position.toJson.sorted := by
  simp [sorted_toJson, shift, shiftJson, Json.mapField, Json.mapNamed, Json.ofNat, Json.increase]

theorem Location.sorted_toJson_shift (count : Nat) (loc : Location) :
    (loc.shift count).toJson.sorted = Location.shiftJson count loc.toJson.sorted := by
  simp [sorted_toJson, shift, shiftJson, Json.mapField, Json.mapNamed,
    Position.sorted_toJson_shift]

/-- Writing a token that stands further down is moving the written token down. -/
theorem Token.sorted_toJson_shift (count : Nat) (token : Token) :
    (token.shift count).toJson.sorted = Token.shiftJson count token.toJson.sorted := by
  rcases token with ⟨chars, loc, _ | _⟩ <;>
    simp [sorted_toJson, shift, shiftJson, markFields, Json.mapField, Json.mapNamed,
      Location.sorted_toJson_shift]

end Markup

/-- The data of an issue, with the token under `open` further down. -/
def shiftData (count : Nat) (data : Option Json.Fields) : Option Json.Fields :=
  data.map (Json.mapNamed "open" (Token.shiftJson count))

/-- The finding, further down. -/
def Finding.shift (count : Nat) (finding : Finding) : Finding :=
  ⟨finding.code, finding.position.shift count, shiftData count finding.data⟩

/-- The issue, further down: its lines and offsets are increased, and so are
those of the token that it keeps under `open`. -/
def Issue.shift (count : Nat) (issue : Issue) : Issue where
  rule := issue.rule
  code := issue.code
  position := issue.position.shift count
  severity := issue.severity
  data := shiftData count issue.data

theorem Json.mapNamed_eq_self {change : Json → Json} (same : ∀ json, change json = json)
    (name : String) (fields : Json.Fields) : Json.mapNamed name change fields = fields := by
  simp only [mapNamed, same]
  apply List.map_id''
  intro field
  split <;> rfl

theorem Json.mapField_eq_self {change : Json → Json} (same : ∀ json, change json = json)
    (name : String) (json : Json) : json.mapField name change = json := by
  cases json with
  | object fields => exact congrArg Json.object (mapNamed_eq_self same name fields)
  | null | bool | number | string | array => rfl

theorem Json.increase_zero (json : Json) : json.increase 0 = json := by
  cases json with
  | number value =>
      cases value with
      | integer value =>
          exact congrArg (fun value => Json.number (.integer value)) (Int.add_zero value)
      | double value => rfl
  | null | bool | string | array | object => rfl

theorem Markup.Token.shiftJson_zero (json : Json) : Token.shiftJson 0 json = json := by
  have position : ∀ json, Position.shiftJson 0 json = json := by
    intro json
    rw [Position.shiftJson, Json.mapField_eq_self Json.increase_zero,
      Json.mapField_eq_self Json.increase_zero]
  have location : ∀ json, Location.shiftJson 0 json = json := by
    intro json
    rw [Location.shiftJson, Json.mapField_eq_self position, Json.mapField_eq_self position]
  exact Json.mapField_eq_self location "loc" json

/-- Moving an issue down by nothing leaves it as it is. -/
theorem Issue.shift_zero (issue : Issue) : issue.shift 0 = issue := by
  rcases issue with ⟨rule, code, position, severity, data⟩
  have same : shiftData 0 data = data := by
    cases data with
    | none => rfl
    | some fields => exact congrArg some (Json.mapNamed_eq_self Token.shiftJson_zero "open" fields)
  simp only [Issue.shift, same]
  rfl

/-! ## The rules further down -/

namespace Rule

variable (count : Nat)

theorem shift_report (code : String) (position : Location) {name : String} (other : name ≠ "open")
    (value : Json) :
    ((Finding.new code position).withData name value).shift count =
      (Finding.new code (position.shift count)).withData name value := by
  simp [Finding.shift, Finding.withData, Finding.new, NameMap.insert, shiftData, Json.mapNamed,
    other]

theorem missingValue_shift (attr : Attribute) :
    missingValue (attr.shift count) = (missingValue attr).shift count :=
  (shift_report count "E006" attr.loc (by decide) _).symm

theorem languageReport_shift (code : String) (token : Token) :
    languageReport code (token.shift count) = (languageReport code token).shift count :=
  (shift_report count code token.loc (by decide) _).symm

theorem casingReport_shift (opening closing : Token) :
    casingReport (opening.shift count) (closing.shift count) =
      (casingReport opening closing).shift count := by
  simp [casingReport, Finding.shift, Finding.withData, Finding.new, NameMap.insert, shiftData,
    Json.mapNamed, Token.sorted_toJson_shift]

theorem hasFilled_shift (tag : Tag) (name : String) :
    (tag.shift count).hasFilled name = tag.hasFilled name := by
  have filled : ∀ attr : Attribute, (attr.shift count).isFilled = attr.isFilled := by
    rintro ⟨attrName, _ | value, loc⟩ <;> rfl
  have named : ∀ attr : Attribute, (attr.shift count).isNamed name = attr.isNamed name :=
    fun attr => rfl
  simp only [Tag.hasFilled, Tag.shift, List.any_map, Function.comp_def, filled, named]

theorem lacksValue_shift (tag : Tag) (attr : Attribute) :
    lacksValue (tag.shift count) (attr.shift count) = lacksValue tag attr := by
  simp only [lacksValue, hasFilled_shift]
  rfl

theorem languageToken?_shift (tag : Tag) :
    languageToken? (tag.shift count) = (languageToken? tag).map (Token.shift count) := by
  have value :
      (tag.shift count).valueOf? "lang" = (tag.valueOf? "lang").map (Token.shift count) := by
    have named : ((fun attr : Attribute => attr.isNamed "lang") ∘ Attribute.shift count) =
        fun attr => attr.isNamed "lang" := rfl
    simp only [Tag.valueOf?, Tag.shift, List.find?_map, named, Option.bind_eq_bind]
    cases tag.attributes.find? fun attr => attr.isNamed "lang" <;> rfl
  have name : (tag.shift count).name = tag.name := rfl
  simp only [languageToken?, name, hasFilled_shift, value]
  split
  · cases tag.valueOf? "lang" with
    | none => rfl
    | some token => cases marked : token.isPlaceholder <;> simp [Option.filter, marked]
  · rfl

theorem mismatchedClosing?_shift (tag : Tag) :
    mismatchedClosing? (tag.shift count) = (mismatchedClosing? tag).map (Token.shift count) := by
  simp only [mismatchedClosing?, Tag.shift]
  cases tag.closing with
  | none => rfl
  | some closing =>
      cases mismatched : Text.namesMatch tag.name closing.chars &&
        tag.opening.chars != closing.chars <;>
        simp [Option.filter, mismatched]

theorem tag?_shift (node : Node) : (node.shift count).tag? = node.tag?.map (Tag.shift count) := by
  cases node <;> rfl

theorem attributeValue_shift (node : Node) (options : Json) :
    (attributeValue.check (node.shift count) options).findings =
      (attributeValue.check node options).findings.map (Finding.shift count) := by
  rw [findings_attributeValue, findings_attributeValue, tag?_shift]
  cases node.tag? with
  | none => rfl
  | some tag =>
      have kept : (lacksValue (tag.shift count)) ∘ Attribute.shift count = lacksValue tag :=
        funext (lacksValue_shift count tag)
      have reported : missingValue ∘ Attribute.shift count = Finding.shift count ∘ missingValue :=
        funext (missingValue_shift count)
      have attributes :
          (tag.shift count).attributes = tag.attributes.map (Attribute.shift count) := rfl
      simp only [Option.map_some, Option.toList_some, List.flatMap_singleton, attributes,
        List.filter_map, kept, List.map_map, reported]

theorem languageStyleWith_shift (classify : Language.Classifier) (node : Node) (options : Json) :
    ((languageStyleWith classify).check (node.shift count) options).findings =
      ((languageStyleWith classify).check node options).findings.map (Finding.shift count) := by
  have found : (node.shift count).tag?.bind languageToken? =
      (node.tag?.bind languageToken?).map (Token.shift count) := by
    rw [tag?_shift]
    cases node.tag? with
    | none => rfl
    | some tag => exact languageToken?_shift count tag
  rw [findings_languageStyleWith, findings_languageStyleWith, found]
  cases node.tag?.bind languageToken? with
  | none => rfl
  | some token =>
      simp only [Option.map_some, Option.bind_some, Token.chars_shift]
      cases verdictCode? options (classify token.chars) with
      | none => rfl
      | some code =>
          exact congrArg (fun finding => [finding]) (languageReport_shift count code token)

theorem tagNameMatch_shift (node : Node) (options : Json) :
    (tagNameMatch.check (node.shift count) options).findings =
      (tagNameMatch.check node options).findings.map (Finding.shift count) := by
  rw [findings_tagNameMatch, findings_tagNameMatch, tag?_shift]
  cases node.tag? with
  | none => rfl
  | some tag =>
      simp only [Option.map_some, Option.bind_some, mismatchedClosing?_shift]
      cases mismatchedClosing? tag with
      | none => rfl
      | some closing =>
          exact congrArg (fun finding => [finding]) (casingReport_shift count tag.opening closing)

/-- What a built-in rule finds moves down with the node. -/
theorem findings_shift {rule : Rule} (builtin : rule ∈ builtin) (node : Node) (options : Json) :
    (rule.check (node.shift count) options).findings =
      (rule.check node options).findings.map (Finding.shift count) := by
  rcases mem_builtin_iff.mp builtin with rfl | rfl | rfl
  · exact attributeValue_shift count node options
  · exact languageStyleWith_shift count _ node options
  · exact tagNameMatch_shift count node options

end Rule

/-! ## Directives further down -/

namespace Markup

/-- A comment is read together with the four characters that begin it. -/
theorem Slice.exists_chars_readComment {slice : Slice} (lead : Lead.of slice.chars = .comment) :
    ∃ more, slice.readComment.1.chars = '<' :: '!' :: '-' :: '-' :: more := by
  rcases Lead.exists_of_eq_comment lead with ⟨rest, front⟩
  simp [readComment, splitAt, front]

/-- Behind the characters that begin a comment, there are fewer lines than bytes. -/
theorem Position.line_after_lt (before more : List Char) :
    (Position.after (before ++ '<' :: '!' :: '-' :: '-' :: more)).line <
      byteSize (before ++ '<' :: '!' :: '-' :: '-' :: more) := by
  have beforeSmall : before.count '\n' ≤ byteSize before :=
    Nat.le_trans List.count_le_length (length_le_byteSize before)
  have moreSmall : more.count '\n' ≤ byteSize more :=
    Nat.le_trans List.count_le_length (length_le_byteSize more)
  have lines : ('<' :: '!' :: '-' :: '-' :: more).count '\n' = more.count '\n' := by
    simp
  have size : byteSize ('<' :: '!' :: '-' :: '-' :: more) = 1 + (1 + (1 + (1 + byteSize more))) :=
    rfl
  simp only [after, List.count_append, byteSize_append, lines, size]
  omega

/-- The end of a part of the text is the position behind all that stands in
front of it and the part. -/
theorem Slice.Within.exists_before {slice : Slice} {text : String}
    (within : slice.Within (Slice.ofText text)) :
    ∃ before, Position.ofOffset text.toList slice.stop = Position.after (before ++ slice.chars) ∧
      byteSize (before ++ slice.chars) ≤ text.utf8ByteSize := by
  have size := within.boundary.2.le
  rcases within with ⟨before, after, whole, start⟩
  have stop : slice.stop = byteSize (before ++ slice.chars) := by
    rw [Slice.stop, start, byteSize_append, Slice.ofText, Nat.zero_add]
  have divides : text.toList = before ++ slice.chars ++ after := whole
  rw [stop] at size
  refine ⟨before, ?_, size⟩
  rw [stop, divides, Position.ofOffset_byteSize]

/-- A comment ends on a line whose number is less than the size of the text. -/
theorem stop_line_lt_of_comment {text : String} {comment : Token}
    (mem : Node.comment comment ∈ preorder (parse text)) :
    comment.loc.stop.line < text.utf8ByteSize := by
  rcases parse_laid text with ⟨last, finished, laid⟩
  have each := laid.forall_preorder (motive := fun node => ∀ comment, node = .comment comment →
    comment.loc.stop.line < text.utf8ByteSize) (Slice.Ends.refl _) ?_ ?_ ?_
  · exact each _ mem comment rfl
  · rintro above slice node rest inText leaf comment rfl
    cases leaf with
    | @comment whole _ lead read =>
        rcases slice.exists_chars_readComment lead with ⟨more, chars⟩
        have within := slice.readComment_splits.within.trans inText.within
        rw [read] at chars within
        rcases within.exists_before with ⟨before, place, size⟩
        have line := Position.line_after_lt before more
        rw [← chars, ← place] at line
        exact Nat.lt_of_lt_of_le line size
  · intro content within nonempty comment same
    contradiction
  · intro above slice tag children rest inText element comment same
    contradiction

end Markup

/-- A directive reaches the same lines further down, unless the lines cannot be counted there. -/
theorem Directive.Scope.reaches_shift (scope : Scope) {count : Nat} {comment : Token} (line : Nat)
    (counted : comment.loc.stop.line + count + 1 < Suppressions.lineCount) :
    scope.reaches (comment.shift count) (line + count) = scope.reaches comment line := by
  cases scope with
  | file => rfl
  | nextLine =>
      have below : Suppressions.nextLine (comment.loc.stop.line + count) =
          comment.loc.stop.line + count + 1 := Suppressions.nextLine_of_lt counted
      have here : Suppressions.nextLine comment.loc.stop.line = comment.loc.stop.line + 1 :=
        Suppressions.nextLine_of_lt (by omega)
      simp only [reaches, Token.loc_shift, Location.shift, Position.shift, below, here]
      rw [Bool.eq_iff_iff, beq_iff_eq, beq_iff_eq]
      omega
  | line =>
      simp only [reaches, Token.loc_shift, Location.shift, Position.shift]
      rw [Bool.eq_iff_iff, beq_iff_eq, beq_iff_eq]
      omega

/-- A comment switches an issue off if it does so further down. -/
theorem Markup.Token.silences_shift {count : Nat} {comment : Token} (issue : Issue)
    (counted : comment.loc.stop.line + count + 1 < Suppressions.lineCount) :
    (comment.shift count).silences (issue.shift count) = comment.silences issue := by
  have line : (issue.shift count).position.start.line = issue.position.start.line + count := rfl
  simp only [silences, chars_shift, line, Directive.Scope.reaches_shift _ _ counted]
  rfl

/-! ## Linting further down -/

/-- The call, at the node further down. -/
def Call.shift (count : Nat) (call : Call) : Call :=
  { call with node := call.node.shift count }

theorem Call.issues_shift {call : Call} (builtin : call.rule ∈ Rule.builtin) (count : Nat) :
    (call.shift count).issues = call.issues.map (Issue.shift count) := by
  have builtinToo : (call.shift count).rule ∈ Rule.builtin := builtin
  have findings := Rule.findings_shift count builtin call.node call.setting.options
  rw [Linter.issues_of_mem_builtin builtin, Linter.issues_of_mem_builtin builtinToo]
  simp only [Call.shift, findings, List.map_map]
  rfl

namespace Linter

theorem calls_append (active : List (Rule × Setting)) (first second : List Node) :
    calls active (first ++ second) = calls active first ++ calls active second := by
  rw [calls, preorder_append, List.flatMap_append, calls, calls]

theorem calls_shift (active : List (Rule × Setting)) (forest : List Node) (count : Nat) :
    calls active (forest.map (Node.shift count)) = (calls active forest).map
      (Call.shift count) := by
  rw [← shiftAll_eq_map, calls, preorder_shiftAll, calls, List.flatMap_map, List.map_flatMap]
  simp only [List.map_map]
  rfl

/-- Built-in rules find nothing in texts. -/
theorem issues_texts (settings : NameMap Setting) (texts : List Token) :
    (calls (activeOf settings) (texts.map Node.text)).flatMap Call.issues = [] := by
  rw [List.flatMap_eq_nil_iff]
  intro call mem
  have builtin := mem_builtin_of_mem_calls mem
  have node := (mem_calls_iff.mp mem).1
  rw [preorder_texts] at node
  rcases List.mem_map.mp node with ⟨token, _, isText⟩
  rw [issues_of_mem_builtin builtin, List.map_eq_nil_iff, List.eq_nil_iff_forall_not_mem]
  intro finding found
  rcases Rule.reports_of_mem_builtin builtin found with ⟨tag, tagged, _⟩
  rw [← isText] at tagged
  contradiction

/-- The issues of a forest behind texts are those of the forest. -/
theorem issues_behind_texts (settings : NameMap Setting) (texts : List Token)
    (forest : List Node) :
    (calls (activeOf settings) (texts.map Node.text ++ forest)).flatMap Call.issues =
      (calls (activeOf settings) forest).flatMap Call.issues := by
  rw [calls_append, List.flatMap_append, issues_texts, List.nil_append]

theorem issues_shift (settings : NameMap Setting) (forest : List Node) (count : Nat) :
    (calls (activeOf settings) (forest.map (Node.shift count))).flatMap Call.issues =
      ((calls (activeOf settings) forest).flatMap Call.issues).map (Issue.shift count) := by
  rw [calls_shift, List.flatMap_map, List.map_flatMap, List.flatMap_def, List.flatMap_def]
  congr 1
  apply List.map_congr_left
  intro call mem
  exact Call.issues_shift (mem_builtin_of_mem_calls mem) count

/-- Texts switch nothing off. -/
theorem suppresses_behind_texts (texts : List Token) (forest : List Node) (issue : Issue) :
    (Suppressions.ofForest (texts.map Node.text ++ forest)).suppresses issue =
      (preorder forest).any (Node.silences issue) := by
  have silent : (texts.map Node.text).any (Node.silences issue) = false := by
    rw [List.any_map, List.any_eq_false]
    intro token _
    exact Bool.false_ne_true
  rw [Suppressions.suppresses_ofForest, preorder_append, preorder_texts, List.any_append, silent,
    Bool.false_or]

theorem suppresses_shift {count : Nat} {forest : List Node} (issue : Issue)
    (counted : ∀ comment, Node.comment comment ∈ preorder forest →
      comment.loc.stop.line + count + 1 < Suppressions.lineCount) :
    (preorder (forest.map (Node.shift count))).any (Node.silences (issue.shift count)) =
      (preorder forest).any (Node.silences issue) := by
  have each : ∀ node ∈ preorder forest,
      (node.shift count).silences (issue.shift count) = node.silences issue := by
    intro node mem
    cases node with
    | comment token => exact token.silences_shift issue (counted token mem)
    | element | text | doctype => rfl
  rw [← shiftAll_eq_map, preorder_shiftAll, Bool.eq_iff_iff, List.any_map, List.any_eq_true,
    List.any_eq_true]
  constructor
  · rintro ⟨node, mem, silences⟩
    exact ⟨node, mem, (each node mem).symm.trans silences⟩
  · rintro ⟨node, mem, silences⟩
    exact ⟨node, mem, (each node mem).trans silences⟩

/-- Whether an issue is dropped does not change if it moves down with its text. -/
theorem drops_shift {settings : NameMap Setting} {inlineConfig : Bool}
    {text : String} {count : Nat}
    (counted : inlineConfig = true → count + text.utf8ByteSize < Suppressions.lineCount)
    {texts texts' : List Token} {forest : List Node}
    (parsed : parse text = texts.map Node.text ++ forest) (issue : Issue) :
    (ofSettings settings inlineConfig).drops
      (texts'.map Node.text ++ forest.map (Node.shift count))
        (issue.shift count) =
      (ofSettings settings inlineConfig).drops (texts.map Node.text ++ forest) issue := by
  cases inlineConfig with
  | false => rfl
  | true =>
      simp only [drops, suppresses_behind_texts]
      rw [suppresses_shift]
      intro comment mem
      have inText : Node.comment comment ∈ preorder (parse text) := by
        rw [parsed, preorder_append]
        exact List.mem_append_right _ mem
      have early := stop_line_lt_of_comment inText
      have small := counted rfl
      omega

/-- Linting a text behind line breaks gives the issues of the text, in the same order and moved
down by as many lines and bytes, whatever the built-in rules are set to. If directives are
honoured, the bytes have to be fewer than the lines that can be told apart. -/
theorem lint_behindBreaks (settings : NameMap Setting) (inlineConfig : Bool)
    (text : String) (count : Nat)
    (counted : inlineConfig = true → count + text.utf8ByteSize < Suppressions.lineCount) :
    ∃ issues, (ofSettings settings inlineConfig).lint text = .ok issues ∧
      (ofSettings settings inlineConfig).lint (behindBreaks count text) =
        .ok (issues.map (Issue.shift count)) := by
  refine ⟨_, lint_ofSettings settings inlineConfig text, ?_⟩
  cases count with
  | zero =>
      have same : Issue.shift 0 = id := funext Issue.shift_zero
      rw [behindBreaks_zero, lint_ofSettings, same, List.map_id]
  | succ count =>
      rcases parse_behindBreaks count text with ⟨texts, texts', forest, parsed, parsedBehind⟩
      have dropped : ∀ issue : Issue,
          (ofSettings settings inlineConfig).drops
              (texts'.map Node.text ++ forest.map (Node.shift (count + 1)))
                (issue.shift (count + 1)) =
            (ofSettings settings inlineConfig).drops (texts.map Node.text ++ forest) issue :=
        drops_shift counted parsed
      rw [lint_ofSettings, parsedBehind, parsed, issues_behind_texts, issues_behind_texts,
        issues_shift, List.filter_map]
      simp only [Function.comp_def, dropped]

/-- Of two issues of one element, a directive drops the one on its own line, wherever that is. -/
theorem lint_behindBreaks_directive :
    ∃ issues, (ofSettings strict.config.settings true).lint
      "<!--taglint-disable all--><b é>\n</B>" =
        .ok issues ∧
      issues.map (fun issue => (issue.code, issue.position)) =
        [("E030", ⟨⟨2, 3, 35⟩, ⟨2, 4, 36⟩⟩)] ∧
      (ofSettings strict.config.settings true).lint
        (behindBreaks 3 "<!--taglint-disable all--><b é>\n</B>") =
          .ok (issues.map (Issue.shift 3)) := by
  have found : ((ofSettings strict.config.settings true).lint
      "<!--taglint-disable all--><b é>\n</B>").toOption.map
        (List.map fun issue => (issue.code, issue.position)) =
      some [("E030", ⟨⟨2, 3, 35⟩, ⟨2, 4, 36⟩⟩)] := by
    decide +kernel
  rcases lint_behindBreaks strict.config.settings true "<!--taglint-disable all--><b é>\n</B>" 3
    (fun _ => by decide +kernel) with ⟨issues, linted, lintedBehind⟩
  rw [linted] at found
  exact ⟨issues, linted, Option.some.inj found, lintedBehind⟩

end Linter

end MarkupLint
