import MarkupLint.Linter.Basic
import MarkupLint.Proofs.Markup.Walk

/-!
# What a linter reports

A linter goes through a forest with two loops, one over its nodes and one over the
rules that are on. Both come down to one list, the calls of the run: each node in
preorder with each rule in order of registration. The run fails where the first of
these calls fails, and otherwise gathers the issues of all of them. `Gives` says by
rules what linting a text gives; the main result is that `lint` gives nothing else.
-/

namespace MarkupLint

open Markup

/-! ## Gathering lists up to the first failure -/

section Gather

variable {α β γ ε : Type}

/-- The lists that `f` makes of the items, one behind the other, or the first failure. -/
def gather (f : α → Except ε (List β)) (items : List α) : Except ε (List β) := do
  return (← items.mapM f).flatten

@[simp]
theorem gather_nil (f : α → Except ε (List β)) : gather f [] = .ok [] :=
  rfl

theorem gather_cons (f : α → Except ε (List β)) (item : α) (items : List α) :
    gather f (item :: items) = do return (← f item) ++ (← gather f items) := by
  simp only [gather, List.mapM_cons]
  cases f item with
  | error failure => rfl
  | ok first => cases items.mapM f <;> rfl

theorem gather_append (f : α → Except ε (List β)) (first second : List α) :
    gather f (first ++ second) = do return (← gather f first) ++ (← gather f second) := by
  induction first with
  | nil => cases found : gather f second <;> simp [bind, Except.bind, pure, Except.pure, found]
  | cons item first ih =>
      rw [List.cons_append, gather_cons, gather_cons, ih]
      cases f item with
      | error failure => rfl
      | ok lists =>
          cases gather f first with
          | error failure => rfl
          | ok others => cases gather f second <;> simp [bind, Except.bind, pure, Except.pure]

/-- Gathering over a list of lists is gathering over all their items. -/
theorem gather_gather (f : γ → Except ε (List β)) (g : α → List γ) (items : List α) :
    gather (fun item => gather f (g item)) items = gather f (items.flatMap g) := by
  induction items with
  | nil => rfl
  | cons item items ih => rw [gather_cons, ih, List.flatMap_cons, gather_append]

theorem gather_map (f : γ → Except ε (List β)) (g : α → γ) (items : List α) :
    gather f (items.map g) = gather (fun item => f (g item)) items := by
  simp only [gather, List.mapM_map]
  rfl

/-- Without a failure, everything is gathered. -/
theorem gather_eq_ok {f : α → Except ε (List β)} {g : α → List β} {items : List α}
    (passes : ∀ item ∈ items, f item = .ok (g item)) : gather f items = .ok (items.flatMap g) := by
  induction items with
  | nil => rfl
  | cons item items ih =>
      rw [gather_cons, passes item List.mem_cons_self,
        ih fun other mem => passes other (List.mem_cons_of_mem item mem), List.flatMap_cons]
      rfl

/-- The first failure is what gathering gives. -/
theorem gather_eq_error {f : α → Except ε (List β)} {g : α → List β} {before after : List α}
    {item : α} {failure : ε} (passes : ∀ earlier ∈ before, f earlier = .ok (g earlier))
    (fails : f item = .error failure) : gather f (before ++ item :: after) = .error failure := by
  rw [gather_append, gather_eq_ok passes, gather_cons, fails]
  rfl

/-- Either all items pass a test, or a first one fails it. -/
theorem forall_or_exists_first (passes : α → Prop) (items : List α) :
    (∀ item ∈ items, passes item) ∨
      ∃ before item after, items = before ++ item :: after ∧ (∀ earlier ∈ before, passes earlier) ∧
        ¬ passes item := by
  induction items with
  | nil => exact Or.inl fun item mem => absurd mem List.not_mem_nil
  | cons first items ih =>
      by_cases firstPasses : passes first
      · rcases ih with all | ⟨before, item, after, rfl, earlier, fails⟩
        · exact Or.inl (List.forall_mem_cons.mpr ⟨firstPasses, all⟩)
        · exact Or.inr ⟨first :: before, item, after, rfl,
            List.forall_mem_cons.mpr ⟨firstPasses, earlier⟩, fails⟩
      · exact Or.inr ⟨[], first, items, rfl, fun item mem => absurd mem List.not_mem_nil,
          firstPasses⟩

theorem eq_ok_of_toOption {result : Except ε α} {value : α}
    (found : result.toOption = some value) : result = .ok value := by
  cases result with
  | error failure => contradiction
  | ok other => exact congrArg Except.ok (Option.some.inj found)

end Gather

/-! ## Calls -/

/-- A rule that is on is shown a node. -/
structure Call where
  node : Node
  rule : Rule
  setting : Setting

namespace Call

/-- What the rule finds at the node, or why it fails there. -/
def outcome (call : Call) : Except RuleError (List Finding) :=
  call.rule.run call.node call.setting.options

/-- The rule does not fail at the node. -/
def Passes (call : Call) : Prop :=
  ∃ findings, call.outcome = .ok findings

/-- A finding of the rule, under the name of the rule and with the severity that it is set to. -/
def issue (call : Call) (finding : Finding) : Issue :=
  ⟨call.rule.name, finding.code, finding.position, call.setting.severity, finding.data⟩

/-- The issues of the call: none if the rule fails. -/
def issues (call : Call) : List Issue :=
  match call.outcome with
  | .ok findings => findings.map call.issue
  | .error _ => []

theorem not_passes_iff {call : Call} : ¬ call.Passes ↔ ∃ cause, call.outcome = .error cause := by
  cases outcome : call.outcome <;> simp [Passes, outcome]

end Call

namespace Linter

/-- The calls of a run over a forest: its nodes in preorder, each with the rules in order. -/
def calls (active : List (Rule × Setting)) (forest : List Node) : List Call :=
  (preorder forest).flatMap fun node => active.map fun entry => ⟨node, entry.1, entry.2⟩

/-- One call, as it is made in a run. -/
def visitCall (call : Call) : Except RuleFailure (List Issue) :=
  visit call.node (call.rule, call.setting)

theorem visitCall_eq_ok {call : Call} (passes : call.Passes) :
    visitCall call = .ok call.issues := by
  rcases passes with ⟨findings, found⟩
  have ran : call.rule.run call.node call.setting.options = .ok findings := found
  simp only [visitCall, visit, ran, Call.issues, found]
  rfl

theorem visitCall_eq_error {call : Call} {cause : RuleError}
    (fails : call.outcome = .error cause) :
    visitCall call = .error ⟨call.rule.name, call.node.loc.start, cause⟩ := by
  have ran : call.rule.run call.node call.setting.options = .error cause := fails
  simp only [visitCall, visit, ran]

/-- The two loops over a forest are one loop over its calls. -/
theorem visitForest_eq_gather (active : List (Rule × Setting)) (forest : List Node) :
    visitForest active forest = gather visitCall (calls active forest) := by
  have inner : visitNode active = fun node =>
      gather visitCall (active.map fun entry => ⟨node, entry.1, entry.2⟩) := by
    funext node
    rw [gather_map]
    rfl
  change gather (visitNode active) (walk forest) = _
  rw [walk_eq_preorder, inner, gather_gather]
  rfl

theorem visitForest_eq_ok {active : List (Rule × Setting)} {forest : List Node}
    (pass : ∀ call ∈ calls active forest, call.Passes) :
    visitForest active forest = .ok ((calls active forest).flatMap Call.issues) := by
  rw [visitForest_eq_gather]
  apply gather_eq_ok
  intro call mem
  exact visitCall_eq_ok (pass call mem)

theorem visitForest_eq_error {active : List (Rule × Setting)} {forest : List Node}
    {before after : List Call} {call : Call} {cause : RuleError}
    (first : calls active forest = before ++ call :: after)
    (pass : ∀ earlier ∈ before, earlier.Passes) (fails : call.outcome = .error cause) :
    visitForest active forest = .error ⟨call.rule.name, call.node.loc.start, cause⟩ := by
  rw [visitForest_eq_gather, first]
  exact gather_eq_error (fun earlier mem => visitCall_eq_ok (pass earlier mem))
    (visitCall_eq_error fails)

/-! ## Directives -/

/-- Directives that switch nothing off suppress no issue. -/
theorem suppresses_of_isEmpty {suppressions : Suppressions} (empty : suppressions.isEmpty = true)
    (issue : Issue) : suppressions.suppresses issue = false := by
  simp only [Suppressions.isEmpty, Bool.and_eq_true, List.isEmpty_iff] at empty
  simp [Suppressions.suppresses, Suppressions.coversFile, Suppressions.coversLine, empty.1,
    empty.2]

/-- Skipping the filter where no directive stands changes nothing. -/
theorem honour_eq_filter (suppressions : Suppressions) (issues : List Issue) :
    honour suppressions issues = issues.filter fun issue => !suppressions.suppresses issue := by
  unfold honour
  split
  · rename_i empty
    apply Eq.symm
    apply List.filter_eq_self.mpr
    intro issue _
    simp [suppresses_of_isEmpty empty]
  · rfl

/-- Whether a linter drops an issue of a forest. -/
def drops (linter : Linter) (forest : List Node) (issue : Issue) : Bool :=
  linter.inlineConfig && (Suppressions.ofForest forest).suppresses issue

theorem keep_eq_filter (linter : Linter) (forest : List Node) (issues : List Issue) :
    linter.keep forest issues = issues.filter fun issue => !linter.drops forest issue := by
  by_cases honours : linter.inlineConfig = true
  · simp [keep, drops, honours, honour_eq_filter]
  · simp only [keep, drops, honours, Bool.false_and, Bool.false_eq_true, if_false, Bool.not_false]
    exact (List.filter_eq_self.mpr fun issue _ => rfl).symm

/-! ## Linting a text -/

/-- What linting a text gives. A text that cannot be parsed gives that
failure; otherwise the first call that fails gives the name of its rule and
the cause; otherwise the issues of all calls are given, without those that
directives of the forest suppress if the linter honours directives. -/
inductive Gives (linter : Linter) (text : String) : Except LintError (List Issue) → Prop where
  | unparsed {cause : ParseError} (unparsed : linter.parser text = .error cause) :
      Gives linter text (.error (.parse cause))
  | failed {forest : List Node} {before after : List Call} {call : Call} {cause : RuleError}
      (parsed : linter.parser text = .ok forest)
      (first : calls linter.config.activeRules forest = before ++ call :: after)
      (pass : ∀ earlier ∈ before, earlier.Passes) (fails : call.outcome = .error cause) :
      Gives linter text (.error (.rule call.rule.name cause))
  | reported {forest : List Node} (parsed : linter.parser text = .ok forest)
      (pass : ∀ call ∈ calls linter.config.activeRules forest, call.Passes)
      (ignores : linter.inlineConfig = false) :
      Gives linter text (.ok ((calls linter.config.activeRules forest).flatMap Call.issues))
  | filtered {forest : List Node} (parsed : linter.parser text = .ok forest)
      (pass : ∀ call ∈ calls linter.config.activeRules forest, call.Passes)
      (honours : linter.inlineConfig = true) :
      Gives linter text (.ok (((calls linter.config.activeRules forest).flatMap Call.issues).filter
        fun issue => !(Suppressions.ofForest forest).suppresses issue))

theorem lint_eq_of_parsed {linter : Linter} {text : String} {forest : List Node}
    (parsed : linter.parser text = .ok forest)
    (pass : ∀ call ∈ calls linter.config.activeRules forest, call.Passes) :
    linter.lint text = .ok (((calls linter.config.activeRules forest).flatMap Call.issues).filter
      fun issue => !linter.drops forest issue) := by
  simp only [lint, parsed, visitForest_eq_ok pass, keep_eq_filter]

theorem Gives.lint_eq {linter : Linter} {text : String} {result : Except LintError (List Issue)}
    (gives : linter.Gives text result) : linter.lint text = result := by
  cases gives with
  | unparsed unparsed => simp only [lint, unparsed]
  | failed parsed first pass fails =>
      simp only [lint, parsed, visitForest_eq_error first pass fails]
  | reported parsed pass ignores =>
      rw [lint_eq_of_parsed parsed pass]
      simp [drops, ignores]
  | filtered parsed pass honours =>
      rw [lint_eq_of_parsed parsed pass]
      simp [drops, honours]

theorem gives_lint (linter : Linter) (text : String) : linter.Gives text (linter.lint text) := by
  cases parsed : linter.parser text with
  | error cause =>
      have gives : linter.Gives text _ := .unparsed parsed
      rwa [gives.lint_eq]
  | ok forest =>
      rcases forall_or_exists_first Call.Passes (calls linter.config.activeRules forest) with
        pass | ⟨before, call, after, first, earlier, fails⟩
      · by_cases honours : linter.inlineConfig = true
        · have gives : linter.Gives text _ := .filtered parsed pass honours
          rwa [gives.lint_eq]
        · have gives : linter.Gives text _ := .reported parsed pass (Bool.eq_false_iff.mpr honours)
          rwa [gives.lint_eq]
      · rcases Call.not_passes_iff.mp fails with ⟨cause, fails⟩
        have gives : linter.Gives text _ := .failed parsed first earlier fails
        rwa [gives.lint_eq]

/-- Linting succeeds only if the text can be parsed and every call passes. -/
theorem exists_of_lint_eq_ok {linter : Linter} {text : String} {issues : List Issue}
    (linted : linter.lint text = .ok issues) :
    ∃ forest, linter.parser text = .ok forest ∧
      (∀ call ∈ calls linter.config.activeRules forest, call.Passes) ∧
      issues = ((calls linter.config.activeRules forest).flatMap Call.issues).filter
        fun issue => !linter.drops forest issue := by
  have gives := gives_lint linter text
  rw [linted] at gives
  cases gives with
  | reported parsed pass _ | filtered parsed pass _ =>
      rw [lint_eq_of_parsed parsed pass] at linted
      exact ⟨_, parsed, pass, (Except.ok.inj linted).symm⟩

/-- The linter with directives honoured or not. -/
def honouring (linter : Linter) (honours : Bool) : Linter :=
  { linter with inlineConfig := honours }

/-- Whether directives are honoured does not change how linting fails. -/
theorem lint_honouring_eq_error_iff (linter : Linter) (text : String) (honours honours' : Bool)
    (failure : LintError) :
    (linter.honouring honours).lint text = .error failure ↔
      (linter.honouring honours').lint text = .error failure := by
  suffices ∀ {on on' : Bool}, (linter.honouring on).lint text = .error failure →
      (linter.honouring on').lint text = .error failure from ⟨this, this⟩
  intro on on' result
  have gives := gives_lint (linter.honouring on) text
  rw [result] at gives
  apply Gives.lint_eq
  cases gives with
  | unparsed unparsed => exact .unparsed unparsed
  | failed parsed first pass fails => exact .failed parsed first pass fails

/-- Honouring directives only drops issues. -/
theorem sublist_of_lint_honouring {linter : Linter} {text : String} {issues : List Issue}
    (linted : (linter.honouring false).lint text = .ok issues) :
    ∃ kept, (linter.honouring true).lint text = .ok kept ∧ kept.Sublist issues := by
  have gives := gives_lint (linter.honouring false) text
  rw [linted] at gives
  cases gives with
  | reported parsed pass ignores =>
      have filtered : (linter.honouring true).Gives text _ := .filtered parsed pass rfl
      exact ⟨_, filtered.lint_eq, List.filter_sublist⟩
  | filtered parsed pass honours => contradiction

/-- Linting a text gives what the rules say and nothing else. So honouring directives changes no
failure, and it only drops issues. -/
theorem lint_eq_iff_gives (linter : Linter) (text : String) :
    (∀ result, linter.lint text = result ↔ linter.Gives text result) ∧
      (∀ failure, (linter.honouring true).lint text = .error failure ↔
        (linter.honouring false).lint text = .error failure) ∧
      ∀ issues, (linter.honouring false).lint text = .ok issues →
        ∃ kept, (linter.honouring true).lint text = .ok kept ∧ kept.Sublist issues := by
  refine ⟨?_, lint_honouring_eq_error_iff linter text true false, ?_⟩
  · intro result
    constructor
    · rintro rfl
      exact gives_lint linter text
    · intro gives
      exact gives.lint_eq
  · intro issues linted
    exact sublist_of_lint_honouring linted

/-- The linter for markup with every built-in rule on. -/
def strict : Linter :=
  { standard with config := (Config.builtin.enableAll .error).config }

/-- Of two issues, the one behind a directive is dropped. -/
theorem lint_eq_iff_gives_next_line :
    ∃ issues kept,
      (strict.honouring false).lint "<!-- taglint-disable-next-line all -->\n<p a>\n<p b>" =
        .ok issues ∧
      (strict.honouring true).lint "<!-- taglint-disable-next-line all -->\n<p a>\n<p b>" =
        .ok kept ∧
      issues.length = 2 ∧ kept.length = 1 ∧ kept.Sublist issues := by
  have both : ((strict.honouring false).lint
      "<!-- taglint-disable-next-line all -->\n<p a>\n<p b>").toOption.map List.length =
        some 2 := by
    decide +kernel
  have one : ((strict.honouring true).lint
      "<!-- taglint-disable-next-line all -->\n<p a>\n<p b>").toOption.map List.length =
        some 1 := by
    decide +kernel
  rcases Option.map_eq_some_iff.mp both with ⟨issues, linted, two⟩
  have linted := eq_ok_of_toOption linted
  rcases (lint_eq_iff_gives strict _).2.2 issues linted with ⟨kept, keptEq, sublist⟩
  rw [keptEq] at one
  exact ⟨issues, kept, linted, keptEq, two, Option.some.inj one, sublist⟩

end Linter

end MarkupLint
