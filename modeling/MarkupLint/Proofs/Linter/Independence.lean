import Mathlib.Data.List.Basic
import MarkupLint.Proofs.Config.Reachable
import MarkupLint.Proofs.Linter.Engine

/-!
# Rules do not interfere

The issues of all rules stand mixed in one list, and directives drop issues of several rules at
once. Still the issues under the name of one rule are those of a run in which only that rule is
on: an issue bears the name of the rule that reported it, the names of rules are distinct, and
whether an issue is dropped depends on nothing but the issue and the forest.
-/

namespace MarkupLint

open Markup

namespace Config

/-- The configuration with the same table in which one rule alone is on. -/
def only (config : Config) (name : String) (setting : Setting) : Config :=
  { config with settings := [(name, setting)] }

/-- The rules of a name that are on. -/
def activeNamed (config : Config) (name : String) : List (Rule × Setting) :=
  config.activeRules.filter fun entry => entry.1.name == name

theorem mem_activeRules_iff {config : Config} {rule : Rule} {setting : Setting} :
    (rule, setting) ∈ config.activeRules ↔
      rule ∈ config.rules ∧ config.setting? rule.name = some setting := by
  simp only [activeRules, List.mem_filterMap, Option.map_eq_some_iff, Prod.mk.injEq]
  constructor
  · rintro ⟨found, mem, value, set, rfl, rfl⟩
    exact ⟨mem, set⟩
  · rintro ⟨mem, set⟩
    exact ⟨rule, mem, setting, set, rfl, rfl⟩

/-- With one rule on, the rules that are on are those of its name. -/
theorem activeRules_only {config : Config} {name : String} {setting : Setting}
    (set : config.setting? name = some setting) :
    (config.only name setting).activeRules = config.activeNamed name := by
  rw [activeNamed, activeRules, activeRules, List.filter_filterMap]
  apply List.filterMap_congr
  intro rule _
  simp only [only, setting?, NameMap.get?_cons, NameMap.get?_nil]
  by_cases same : name = rule.name
  · subst same
    have found : NameMap.get? config.settings rule.name = some setting := set
    simp [found, Option.filter]
  · cases NameMap.get? config.settings rule.name <;> simp [same, Ne.symm same, Option.filter]

/-- Of rules with distinct names, only one has the name of a given one. -/
theorem filter_name_eq_singleton {rules : List Rule} (distinct : (rules.map Rule.name).Nodup)
    {rule : Rule} (mem : rule ∈ rules) :
    (rules.filter fun other => other.name == rule.name) = [rule] := by
  induction rules with
  | nil => contradiction
  | cons first rules ih =>
      rw [List.map_cons, List.nodup_cons] at distinct
      rcases distinct with ⟨fresh, distinct⟩
      rcases List.mem_cons.mp mem with rfl | later
      · rw [List.filter_cons_of_pos (by simp), List.filter_eq_nil_iff.mpr]
        intro other otherMem same
        apply fresh
        rw [← beq_iff_eq.mp same]
        exact List.mem_map_of_mem otherMem
      · rw [List.filter_cons_of_neg, ih distinct later]
        intro same
        apply fresh
        rw [beq_iff_eq.mp same]
        exact List.mem_map_of_mem later

/-- The name of a rule that is on stands for that rule alone. -/
theorem activeNamed_eq_singleton {config : Config} (distinct : config.ruleNames.Nodup)
    {rule : Rule} {setting : Setting} (active : (rule, setting) ∈ config.activeRules) :
    config.activeNamed rule.name = [(rule, setting)] := by
  rcases mem_activeRules_iff.mp active with ⟨mem, set⟩
  have split : config.activeNamed rule.name =
      (config.rules.filter fun other => other.name == rule.name).filterMap fun other =>
        (config.setting? other.name).map fun setting => (other, setting) := by
    rw [activeNamed, activeRules, List.filter_filterMap, List.filterMap_filter]
    apply List.filterMap_congr
    intro other _
    by_cases same : other.name = rule.name
    · cases config.setting? other.name <;> simp [same]
    · cases config.setting? other.name <;> simp [same]
  rw [split, filter_name_eq_singleton distinct mem]
  simp [set]

end Config

/-- Every issue of a call bears the name of its rule. -/
theorem Call.rule_of_mem_issues {call : Call} {issue : Issue} (mem : issue ∈ call.issues) :
    issue.rule = call.rule.name := by
  unfold Call.issues at mem
  split at mem
  · rcases List.mem_map.mp mem with ⟨finding, _, rfl⟩
    rfl
  · contradiction

namespace Linter

/-- The issues under the name of a rule. -/
def issuesOf (name : String) (issues : List Issue) : List Issue :=
  issues.filter fun issue => issue.rule == name

/-- The calls of the rules of one name are the calls of a run in which those alone are on. -/
theorem filter_calls (active : List (Rule × Setting)) (forest : List Node) (name : String) :
    ((calls active forest).filter fun call => call.rule.name == name) =
      calls (active.filter fun entry => entry.1.name == name) forest := by
  rw [calls, calls, List.filter_flatMap]
  congr
  funext node
  rw [List.filter_map]
  rfl

/-- The issues under one name come from the calls of the rules of that name. -/
theorem issuesOf_flatMap (name : String) (calls : List Call) :
    issuesOf name (calls.flatMap Call.issues) =
      (calls.filter fun call => call.rule.name == name).flatMap Call.issues := by
  induction calls with
  | nil => rfl
  | cons call calls ih =>
      rw [List.flatMap_cons, issuesOf, List.filter_append]
      have rest : (calls.flatMap Call.issues).filter (fun issue => issue.rule == name) =
          (calls.filter fun call => call.rule.name == name).flatMap Call.issues := ih
      rw [rest]
      by_cases same : call.rule.name = name
      · rw [List.filter_cons_of_pos (by simpa using same), List.flatMap_cons]
        congr 1
        apply List.filter_eq_self.mpr
        intro issue mem
        rw [Call.rule_of_mem_issues mem]
        exact beq_iff_eq.mpr same
      · rw [List.filter_cons_of_neg (by simpa using same), List.filter_eq_nil_iff.mpr,
          List.nil_append]
        intro issue mem
        rw [Call.rule_of_mem_issues mem]
        simpa using same

/-- The linter with another configuration. -/
def withConfig (linter : Linter) (config : Config) : Linter :=
  { linter with config := config }

/-- Of the issues of a text, those under one name are the issues of any run in which the rules of
that name, set as they were, are all that is on. -/
theorem lint_withConfig_of_activeNamed {linter : Linter} {text : String} {issues : List Issue}
    (linted : linter.lint text = .ok issues) {name : String} {config : Config}
    (alone : config.activeRules = linter.config.activeNamed name) :
    (linter.withConfig config).lint text = .ok (issuesOf name issues) := by
  rcases exists_of_lint_eq_ok linted with ⟨forest, parsed, pass, rfl⟩
  have fewer : calls config.activeRules forest =
      (calls linter.config.activeRules forest).filter fun call => call.rule.name == name := by
    rw [filter_calls, alone]
    rfl
  have passAlone : ∀ call ∈ calls config.activeRules forest, call.Passes := by
    intro call mem
    rw [fewer] at mem
    exact pass call (List.mem_filter.mp mem).1
  have result : (linter.withConfig config).lint text =
      .ok (((calls config.activeRules forest).flatMap Call.issues).filter
        fun issue => !linter.drops forest issue) := lint_eq_of_parsed parsed passAlone
  rw [result, fewer, ← issuesOf_flatMap, issuesOf, issuesOf, List.filter_comm]

/-- In a configuration that can be reached, the issues of a rule that is on
are those of the run in which it alone is on, set as it was. So they stay the
same whatever is done to the other rules, as long as none fails. -/
theorem rules_independent {linter : Linter} (reached : linter.config.Reachable) {text : String}
    {issues : List Issue} (linted : linter.lint text = .ok issues) {rule : Rule}
    {setting : Setting} (active : (rule, setting) ∈ linter.config.activeRules) :
    (linter.config.only rule.name setting).activeRules = [(rule, setting)] ∧
      (linter.withConfig (linter.config.only rule.name setting)).lint text =
        .ok (issuesOf rule.name issues) ∧
      ∀ other : Config, other.rules = linter.config.rules → (rule, setting) ∈ other.activeRules →
        ∀ others, (linter.withConfig other).lint text = .ok others →
          issuesOf rule.name others = issuesOf rule.name issues := by
  have distinct := reached.indexed.distinct
  have named := Config.activeNamed_eq_singleton distinct active
  have alone := Config.activeRules_only (Config.mem_activeRules_iff.mp active).2
  have first := lint_withConfig_of_activeNamed linted alone
  refine ⟨alone.trans named, first, ?_⟩
  intro other table otherActive others otherLinted
  have otherDistinct : other.ruleNames.Nodup := by
    rw [Config.ruleNames, table]
    exact distinct
  have otherNamed := Config.activeNamed_eq_singleton otherDistinct otherActive
  have second :=
    lint_withConfig_of_activeNamed otherLinted (alone.trans (named.trans otherNamed.symm))
  exact Except.ok.inj (second.symm.trans first)

/-- Two rules report on one tag, and a third is on as well. -/
theorem rules_independent_casing :
    ∃ issues, strict.lint "<Div class></div>" = .ok issues ∧ issues.length = 2 ∧
      (strict.withConfig (strict.config.only "tag-name-match" ⟨.error, .bool true⟩)).lint
        "<Div class></div>" = .ok (issuesOf "tag-name-match" issues) ∧
      (issuesOf "tag-name-match" issues).length = 1 := by
  have found : (strict.lint "<Div class></div>").toOption.map (fun issues =>
      (issues.length, (issuesOf "tag-name-match" issues).length)) = some (2, 1) := by
    decide +kernel
  rcases Option.map_eq_some_iff.mp found with ⟨issues, linted, counts⟩
  have linted := eq_ok_of_toOption linted
  have reached : strict.config.Reachable := .step .builtin (.enableAll .error)
  have active : (Rule.tagNameMatch, (⟨.error, .bool true⟩ : Setting)) ∈
      strict.config.activeRules := by
    apply Config.mem_activeRules_iff.mpr
    exact ⟨List.mem_of_getElem? (i := 2) rfl, rfl⟩
  rcases rules_independent reached linted active with ⟨_, alone, _⟩
  exact ⟨issues, linted, congrArg Prod.fst counts, alone, congrArg Prod.snd counts⟩

end Linter

end MarkupLint
