import MarkupLint.Proofs.Linter.Builtin
import MarkupLint.Proofs.Markup.Elements
import MarkupLint.Proofs.Text.LoweringTwice

/-!
# Issues point at what they tell of

An issue of a built-in rule holds a location and some data. The location lies
in the text, and what stands there is what the data say: a value that names a
language, an attribute by its name, or a closing name that differs from the
opening name, which is kept in the data, in nothing but case.
-/

namespace MarkupLint

open Markup

namespace Markup

/-- The location lies between two boundaries of the text, in order. -/
structure Location.LiesIn (text : String) (loc : Location) : Prop where
  ordered : loc.start.offset ≤ loc.stop.offset
  inside : loc.stop.offset ≤ text.utf8ByteSize
  start : Boundary text.toList loc.start.offset
  stop : Boundary text.toList loc.stop.offset

/-- The characters of the text between the two offsets of the location. -/
def Location.Holds (text : String) (loc : Location) (chars : List Char) : Prop :=
  StandsAt text loc.start.offset chars ∧ loc.stop.offset = loc.start.offset + byteSize chars

theorem Location.Holds.liesIn {text : String} {loc : Location} {chars : List Char}
    (holds : loc.Holds text chars) : loc.LiesIn text := by
  rcases holds with ⟨⟨before, after, whole, start⟩, stop⟩
  have stopAt : Boundary text.toList loc.stop.offset := by
    refine ⟨before ++ chars, after, whole, ?_⟩
    rw [byteSize_append, start, stop]
  constructor
  · rw [stop]
    exact Nat.le_add_right _ _
  · exact stopAt.le
  · exact ⟨before, chars ++ after, by rw [whole, List.append_assoc], start⟩
  · exact stopAt

theorem AttributeLexeme.LiesIn.liesIn_loc {text : String} {lexeme : AttributeLexeme}
    (inText : lexeme.LiesIn text) : (lexeme.place text).loc.LiesIn text := by
  have start := Position.offset_ofOffset inText.boundary.1
  have stop := Position.offset_ofOffset inText.boundary.2
  rw [inText.loc_place]
  constructor
  · rw [start, stop, AttributeLexeme.start, AttributeLexeme.stop]
    cases written : lexeme.value with
    | none => exact lexeme.name.start_le_stop
    | some value =>
        have behind := (inText.value value written).2
        exact Nat.le_trans lexeme.name.start_le_stop
          (Nat.le_trans (Nat.le_of_lt behind) value.start_le_stop)
  · rw [stop]
    exact inText.boundary.2.le
  · rw [start]
    exact inText.boundary.1
  · rw [stop]
    exact inText.boundary.2

/-- Every token of an element of the forest holds what stands at its location. -/
theorem holds_of_mem_tokens {text : String} {tag : Tag} {children : List Node}
    (mem : Node.element tag children ∈ preorder (parse text)) {token : Token}
    (tokenMem : token ∈ tag.tokens) : token.loc.Holds text token.chars.toList := by
  rcases exists_elementRead mem with ⟨above, slice, rest, inText, element⟩
  rcases element.exists_slice inText tokenMem with ⟨part, within, rfl⟩
  exact within.isSliceOf

theorem liesIn_of_mem_attributes {text : String} {tag : Tag} {children : List Node}
    (mem : Node.element tag children ∈ preorder (parse text)) {attr : Attribute}
    (attrMem : attr ∈ tag.attributes) : attr.loc.LiesIn text := by
  rcases exists_elementRead mem with ⟨above, slice, rest, inText, element⟩
  rcases element.exists_parts with ⟨opening, raw?, inner, tail, closing, read, content,
    ending, rfl⟩
  rcases List.mem_map.mp attrMem with ⟨lexeme, lexemeMem, rfl⟩
  exact ((read.liesIn inText).attributes lexeme lexemeMem).liesIn_loc

/-- In a text whose size is a word, an opening name that is closed can be read back. -/
theorem fits_opening {text : String} {tag : Tag} {children : List Node}
    (mem : Node.element tag children ∈ preorder (parse text)) {closing : Token}
    (closed : tag.closing = some closing)
    (small : text.utf8ByteSize ≤ Json.Number.maxSignificand) : tag.opening.loc.Fits := by
  have opens : tag.opening ∈ tag.tokens := List.mem_cons_self
  have closes : closing ∈ tag.tokens := by simp [Tag.tokens, closed]
  have openingIn := (holds_of_mem_tokens mem opens).liesIn
  have closingIn := (holds_of_mem_tokens mem closes).liesIn
  rcases exists_elementRead mem with ⟨above, slice, rest, inText, element⟩
  have before := element.opening_stop_lt inText closed
  have room : tag.opening.loc.stop.offset < Json.Number.maxSignificand :=
    Nat.lt_of_lt_of_le before (Nat.le_trans closingIn.start.le small)
  have stored : tag.opening.loc.IsIn text :=
    (element.located inText).locations _ (by simp [Node.locations, Tag.locations, Tag.tokens])
  constructor
  · exact stored.start.fits (Nat.lt_of_le_of_lt openingIn.ordered room)
  · exact stored.stop.fits room

/-- The closing name of an element, if it is written otherwise than its opening name. -/
def Node.miscasedClosing? (node : Node) : Option Token :=
  node.tag?.bind fun tag => tag.closing.filter fun closing => closing.chars != tag.opening.chars

end Markup

/-! ## What an issue tells of -/

/-- The text bears out what the issue says in its code and its data. -/
inductive Issue.TellsOf (text : String) (issue : Issue) : Prop where
  /-- The location holds the language that the issue names. -/
  | language {lang : String} (code : issue.code = "E038" ∨ issue.code = "E039")
      (datum : issue.datum? "lang" = some (.string lang))
      (holds : issue.position.Holds text lang.toList) : TellsOf text issue
  /-- The location is that of an attribute and starts with its name, which the
  issue gives in lower case. -/
  | attribute {tag : Tag} {children : List Node} {attr : Attribute} (code : issue.code = "E006")
      (mem : Node.element tag children ∈ preorder (parse text)) (attrMem : attr ∈ tag.attributes)
      (position : issue.position = attr.loc)
      (name : RunAt text isAttributeNameChar issue.position.start.offset attr.name.chars.toList)
      (datum : issue.datum? "attribute" = some (.string (Text.lowercase attr.name.chars))) :
      TellsOf text issue
  /-- The location holds the name in a closing tag. The issue keeps a token,
  which can be read back if the size of the text is a word; it holds other
  characters of the text, the same in lower case. -/
  | closing {opening : Token} {name : List Char} (code : issue.code = "E030")
      (closes : ClosingNameAt text issue.position.start.offset name)
      (holds : issue.position.Holds text name)
      (datum : issue.datum? "open" = some opening.toJson.sorted)
      (decodes : text.utf8ByteSize ≤ Json.Number.maxSignificand →
        (issue.datum? "open").bind Token.ofJson? = some opening)
      (slice : opening.IsSliceOf text) (different : opening.chars.toList ≠ name)
      (same : Text.lowercase opening.chars = Text.lowercase (String.ofList name)) :
      TellsOf text issue

/-- The issue lies in the text, and the text bears it out. -/
structure Issue.PointsInto (text : String) (issue : Issue) : Prop where
  position : issue.position.LiesIn text
  tellsOf : issue.TellsOf text

theorem datum?_report (call : Call) (code : String) (position : Location) (name : String)
    (value : Json) :
    (call.issue ((Finding.new code position).withData name value)).datum? name = some value := by
  simp [Call.issue, Issue.datum?, Finding.withData, Finding.new]

section

variable {text : String} {call : Call} {tag : Tag} {children : List Node}

theorem pointsInto_missingValue (mem : Node.element tag children ∈ preorder (parse text))
    {attr : Attribute} (attrMem : attr ∈ tag.attributes) :
    (call.issue (Rule.missingValue attr)).PointsInto text := by
  rcases exists_elementRead mem with ⟨above, slice, rest, inText, element⟩
  constructor
  · exact liesIn_of_mem_attributes mem attrMem
  · exact .attribute rfl mem attrMem rfl (element.runAt_attribute inText attrMem)
      (datum?_report call "E006" attr.loc "attribute" _)

/-- The token that names a language is the value of an attribute. -/
theorem mem_tokens_of_languageToken? {token : Token}
    (language : Rule.languageToken? tag = some token) : token ∈ tag.tokens := by
  unfold Rule.languageToken? at language
  split at language
  · rcases Option.filter_eq_some_iff.mp language with ⟨value, _⟩
    rcases Option.bind_eq_some_iff.mp value with ⟨attr, found, written⟩
    have tokenMem : token ∈ attr.tokens := by simp [Attribute.tokens, written]
    have attrMem := List.mem_of_find?_eq_some found
    exact List.mem_append_right _ (List.mem_flatMap.mpr ⟨attr, attrMem, tokenMem⟩)
  · contradiction

theorem pointsInto_languageReport (mem : Node.element tag children ∈ preorder (parse text))
    {token : Token} (language : Rule.languageToken? tag = some token) {code : String}
    (coded : code = "E038" ∨ code = "E039") :
    (call.issue (Rule.languageReport code token)).PointsInto text := by
  have holds := holds_of_mem_tokens mem (mem_tokens_of_languageToken? language)
  constructor
  · exact holds.liesIn
  · exact .language coded (datum?_report call code token.loc "lang" _) holds

/-- The names of an element that is closed are the same in lower case. -/
theorem lowercase_closing (mem : Node.element tag children ∈ preorder (parse text))
    {closing : Token} (closed : tag.closing = some closing) :
    Text.lowercase tag.opening.chars = Text.lowercase closing.chars := by
  rcases exists_elementRead mem with ⟨above, slice, rest, inText, element⟩
  rcases element.names with ⟨name, matching⟩
  have same := Text.namesMatch_iff.mp (matching closing closed)
  rwa [name, Text.lowercase_lowercase] at same

theorem mismatchedClosing?_eq (mem : Node.element tag children ∈ preorder (parse text)) :
    Rule.mismatchedClosing? tag = tag.closing.filter fun closing =>
    closing.chars != tag.opening.chars := by
  unfold Rule.mismatchedClosing?
  cases closed : tag.closing with
  | none => rfl
  | some closing =>
      rcases exists_elementRead mem with ⟨above, slice, rest, inText, element⟩
      have matching := element.names.2 closing closed
      simp [Option.filter, matching, bne_comm]

theorem pointsInto_casingReport (mem : Node.element tag children ∈ preorder (parse text))
    {closing : Token} (mismatched : Rule.mismatchedClosing? tag = some closing) :
    (call.issue (Rule.casingReport tag.opening closing)).PointsInto text := by
  rw [mismatchedClosing?_eq mem] at mismatched
  rcases Option.filter_eq_some_iff.mp mismatched with ⟨closed, different⟩
  have opens : tag.opening ∈ tag.tokens := List.mem_cons_self
  have closes : closing ∈ tag.tokens := by simp [Tag.tokens, closed]
  have holds := holds_of_mem_tokens mem closes
  have datum := datum?_report call "E030" closing.loc "open" tag.opening.toJson.sorted
  rcases exists_elementRead mem with ⟨above, slice, rest, inText, element⟩
  constructor
  · exact holds.liesIn
  · refine .closing rfl (element.closingNameAt inText closed) holds datum ?_
      (holds_of_mem_tokens mem opens) ?_ ?_
    · intro small
      rw [Rule.casingReport, datum]
      exact Token.ofJson?_sorted (fits_opening mem closed small)
    · intro same
      exact bne_iff_ne.mp different (String.toList_inj.mp same).symm
    · rw [String.ofList_toList]
      exact lowercase_closing mem closed

end

namespace Linter

/-- Every issue of a call of a built-in rule, at a node of the forest of a
text, points into the text. -/
theorem pointsInto_of_mem_issues {text : String} {call : Call} (builtin : call.rule ∈ Rule.builtin)
    (node : call.node ∈ preorder (parse text)) {issue : Issue} (mem : issue ∈ call.issues) :
    issue.PointsInto text := by
  rw [issues_of_mem_builtin builtin] at mem
  rcases List.mem_map.mp mem with ⟨finding, found, rfl⟩
  rcases Rule.reports_of_mem_builtin builtin found with ⟨tag, tagged, reports⟩
  rw [Node.eq_element_of_tag? tagged] at node
  cases reports with
  | value attrMem lacks => exact pointsInto_missingValue node attrMem
  | language language coded => exact pointsInto_languageReport node language coded
  | casing mismatched => exact pointsInto_casingReport node mismatched

/-- The code and the place of each miscased closing name among the nodes. -/
def casings (nodes : List Node) : List (String × Location) :=
  (nodes.filterMap Node.miscasedClosing?).map fun closing => ("E030", closing.loc)

/-- At a node of the forest of a text, the rule about closing names reports
the one that is miscased. -/
theorem findings_tagNameMatch_eq_casings {text : String} {node : Node}
    (mem : node ∈ preorder (parse text)) (options : Json) :
    (Rule.tagNameMatch.check node options).findings.map (fun finding =>
      (finding.code, finding.position)) =
      casings [node] := by
  rw [Rule.findings_tagNameMatch, casings, List.filterMap_cons, List.filterMap_nil]
  cases tagged : node.tag? with
  | none => simp [Node.miscasedClosing?, tagged]
  | some tag =>
      rw [Node.eq_element_of_tag? tagged] at mem
      simp only [Node.miscasedClosing?, tagged, Option.bind_some, mismatchedClosing?_eq mem]
      cases tag.closing.filter fun closing => closing.chars != tag.opening.chars <;> rfl

/-- If the rule about closing names is on, its calls are one for each node. -/
theorem filter_calls_tagNameMatch {settings : NameMap Setting} {setting : Setting}
    (set : NameMap.get? settings "tag-name-match" = some setting) (forest : List Node) :
    ((calls (activeOf settings) forest).filter fun call => call.rule.name == "tag-name-match") =
      (preorder forest).map fun node => ⟨node, Rule.tagNameMatch, setting⟩ := by
  have distinct : (ofSettings settings true).config.ruleNames.Nodup := by
    change (Rule.builtin.map Rule.name).Nodup
    decide
  have active : (Rule.tagNameMatch, setting) ∈ (ofSettings settings true).config.activeRules :=
    Config.mem_activeRules_iff.mpr ⟨Rule.mem_builtin_iff.mpr (Or.inr (Or.inr rfl)), set⟩
  have alone : ((activeOf settings).filter fun entry => entry.1.name == "tag-name-match") =
      [(Rule.tagNameMatch, setting)] := Config.activeNamed_eq_singleton distinct active
  rw [filter_calls, alone, calls, List.map_eq_flatMap]
  rfl

/-- The rule about closing names reports the miscased ones of the forest, in order. -/
theorem issuesOf_tagNameMatch {settings : NameMap Setting} {setting : Setting}
    (set : NameMap.get? settings "tag-name-match" = some setting) (text : String) :
    (issuesOf "tag-name-match" ((calls (activeOf settings) (parse text)).flatMap Call.issues)).map
      (fun issue => (issue.code, issue.position)) = casings (preorder (parse text)) := by
  suffices ∀ nodes : List Node, (∀ node ∈ nodes, node ∈ preorder (parse text)) →
      ((nodes.map fun node => (⟨node, Rule.tagNameMatch, setting⟩ : Call)).flatMap Call.issues).map
        (fun issue => (issue.code, issue.position)) = casings nodes by
    rw [issuesOf_flatMap, filter_calls_tagNameMatch set]
    exact this _ fun node mem => mem
  intro nodes inForest
  induction nodes with
  | nil => rfl
  | cons node nodes ih =>
      rcases List.forall_mem_cons.mp inForest with ⟨here, later⟩
      have first := findings_tagNameMatch_eq_casings here setting.options
      have builtin : Rule.tagNameMatch ∈ Rule.builtin :=
        Rule.mem_builtin_iff.mpr (Or.inr (Or.inr rfl))
      have split : casings (node :: nodes) = casings [node] ++ casings nodes := by
        simp only [casings, ← List.map_append, ← List.filterMap_append, List.singleton_append]
      rw [List.map_cons, List.flatMap_cons, List.map_append, ih later, split, ← first,
        issues_of_mem_builtin builtin, List.map_map]
      rfl

/-- Linting markup with the built-in rules succeeds, whatever they are set to, and every issue
points into the text. The rule about closing names reports one issue for each element whose
closing name is written otherwise than its opening name, and none at any other node. -/
theorem issues_point_into_text (settings : NameMap Setting) (inlineConfig : Bool) (text : String) :
    (∃ issues, (ofSettings settings inlineConfig).lint text = .ok issues ∧
      ∀ issue ∈ issues, issue.PointsInto text) ∧
    (∀ node ∈ preorder (parse text), ∀ options, ∃ findings,
      Rule.tagNameMatch.run node options = .ok findings ∧
      findings.map (fun finding => (finding.code, finding.position)) = casings [node]) ∧
    ∀ setting, NameMap.get? settings "tag-name-match" = some setting →
      ∃ issues, (ofSettings settings false).lint text = .ok issues ∧
        (issuesOf "tag-name-match" issues).map (fun issue => (issue.code, issue.position)) =
          casings (preorder (parse text)) := by
  refine ⟨⟨_, lint_ofSettings settings inlineConfig text, ?_⟩, ?_, ?_⟩
  · intro issue mem
    rcases List.mem_flatMap.mp (List.mem_filter.mp mem).1 with ⟨call, made, reported⟩
    exact pointsInto_of_mem_issues (mem_builtin_of_mem_calls made)
      (mem_calls_iff.mp made).1 reported
  · intro node mem options
    have builtin : Rule.tagNameMatch ∈ Rule.builtin :=
      Rule.mem_builtin_iff.mpr (Or.inr (Or.inr rfl))
    exact ⟨_, Rule.run_of_mem_builtin builtin node options,
      findings_tagNameMatch_eq_casings mem options⟩
  · intro setting set
    refine ⟨_, lint_ofSettings settings false text, ?_⟩
    rw [← issuesOf_tagNameMatch set text]
    simp [drops, ofSettings]

/-- A language, an attribute behind a line break and a closing name behind a
character of two bytes. -/
theorem issues_point_into_text_casing :
    ∃ issues, (ofSettings strict.config.settings false).lint "<html lang=zz>\n<Div é></div>" =
      .ok issues ∧
      issues.map Issue.code = ["E038", "E006", "E030"] ∧
      (∀ issue ∈ issues, issue.PointsInto "<html lang=zz>\n<Div é></div>") ∧
      (issuesOf "tag-name-match" issues).map (fun issue => (issue.code, issue.position)) =
        [("E030", ⟨⟨2, 10, 25⟩, ⟨2, 13, 28⟩⟩)] := by
  have found : ((ofSettings strict.config.settings false).lint
      "<html lang=zz>\n<Div é></div>").toOption.map (List.map Issue.code) =
        some ["E038", "E006", "E030"] := by
    decide +kernel
  have miscased : casings (preorder (parse "<html lang=zz>\n<Div é></div>")) =
      [("E030", ⟨⟨2, 10, 25⟩, ⟨2, 13, 28⟩⟩)] := by
    decide +kernel
  rcases issues_point_into_text strict.config.settings false "<html lang=zz>\n<Div é></div>" with
    ⟨⟨issues, linted, point⟩, _, exact_⟩
  rcases exact_ ⟨.error, .bool true⟩ rfl with ⟨same, again, reported⟩
  have equal : issues = same := Except.ok.inj (linted.symm.trans again)
  rw [linted] at found
  rw [← equal, miscased] at reported
  exact ⟨issues, linted, Option.some.inj found, point, reported⟩

end Linter

end MarkupLint
