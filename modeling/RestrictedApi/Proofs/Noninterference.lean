import Mathlib.Data.List.Nodup
import RestrictedApi.Analysis

/-!
# Rules do not interfere

An analyzer runs all its rules over the same usages and sorts what they find by location.  What is
counted does not depend on the rules, and what one rule finds is what it would find alone.  The
second part rests on the sorting being stable: leaving the other rules out before sorting and after
it comes to the same.
-/

namespace RestrictedApi

/-!
# The order of locations

Locations are ordered by file, line, column, offset and length, and files by their components.
-/

/-- Components of one rank are told apart by their labels; only names can differ in them. -/
def PathComponent.Before (a b : PathComponent) : Prop :=
  a.rank < b.rank ∨ a.rank = b.rank ∧ a.label < b.label

def SourcePath.Before (a b : SourcePath) : Prop :=
  List.Lex PathComponent.Before a.components b.components

/-- The first location comes before the second, or is at the same place. -/
def Location.NotAfter (a b : Location) : Prop :=
  a.file.Before b.file ∨ a.file.components = b.file.components ∧
    (a.line < b.line ∨ a.line = b.line ∧
      (a.column < b.column ∨ a.column = b.column ∧
        (a.offset < b.offset ∨ a.offset = b.offset ∧ a.length ≤ b.length)))

namespace PathComponent

theorem eq_of_rank_of_label {a b : PathComponent} (hrank : a.rank = b.rank)
    (hlabel : a.label = b.label) : a = b := by
  cases a <;> cases b <;> simp_all [rank, label]

theorem compare_eq_eq_iff {a b : PathComponent} : compare a b = .eq ↔ a = b := by
  change (compare a.rank b.rank).then (compare a.label b.label) = .eq ↔ a = b
  rw [Ordering.then_eq_eq, Nat.compare_eq_eq, Std.compare_eq_iff_eq]
  constructor
  · intro h
    exact eq_of_rank_of_label h.1 h.2
  · intro h
    rw [h]
    exact ⟨rfl, rfl⟩

theorem compare_eq_lt_iff {a b : PathComponent} : compare a b = .lt ↔ a.Before b := by
  have hlabel : compare a.label b.label = .lt ↔ a.label < b.label := by
    change compareOfLessAndEq a.label b.label = .lt ↔ a.label < b.label
    exact compareOfLessAndEq_eq_lt
  change (compare a.rank b.rank).then (compare a.label b.label) = .lt ↔ a.Before b
  rw [Ordering.then_eq_lt, Nat.compare_eq_lt, Nat.compare_eq_eq, hlabel, Before]

instance : Std.TransOrd PathComponent :=
  inferInstanceAs (Std.TransCmp (compareLex (compareOn rank) (compareOn label)))

instance : Std.LawfulEqOrd PathComponent where
  eq_of_compare := compare_eq_eq_iff.mp

end PathComponent

namespace SourcePath

theorem compare_eq_lt_iff {a b : SourcePath} : compare a b = .lt ↔ a.Before b := by
  have hlists : ∀ first second : List PathComponent,
      compare first second = .lt ↔ List.Lex PathComponent.Before first second := by
    intro first
    induction first with
    | nil =>
        intro second
        cases second with
        | nil => simp
        | cons b rest => simp
    | cons a rest ih =>
        intro second
        cases second with
        | nil => simp
        | cons b others =>
            have hrest := ih others
            rw [List.compare_eq_compareLex] at hrest ⊢
            rw [List.compareLex_cons_cons, Ordering.then_eq_lt, hrest,
              PathComponent.compare_eq_lt_iff, PathComponent.compare_eq_eq_iff,
              List.cons_lex_cons_iff]
  exact hlists a.components b.components

instance : Std.TransOrd SourcePath :=
  inferInstanceAs (Std.TransCmp (compareOn components))

end SourcePath

namespace Location

instance : Std.TransOrd Location :=
  inferInstanceAs (Std.TransCmp (compareLex (compareOn file) (compareLex (compareOn line)
    (compareLex (compareOn column) (compareLex (compareOn offset) (compareOn length))))))

theorem isLE_compare_iff {a b : Location} : (compare a b).isLE = true ↔ a.NotAfter b := by
  have hfile : compare a.file b.file = .eq ↔ a.file.components = b.file.components := by
    change compare a.file.components b.file.components = .eq ↔ _
    exact Std.compare_eq_iff_eq
  change (Location.compare a b).isLE = true ↔ a.NotAfter b
  unfold Location.compare NotAfter
  simp only [Ordering.isLE_then_iff_or, SourcePath.compare_eq_lt_iff, hfile, Nat.compare_eq_lt,
    Nat.compare_eq_eq, Nat.isLE_compare]

end Location

/-!
# Stable sorting

Sorting inserts an element before the first one that it may precede.  Elements that are left out
afterwards do not change where the others stand.
-/

section Sorting

variable {α : Type} {le : α → α → Bool}

/-- A list is split in one way only into elements that fail a test and then elements that pass. -/
theorem split_unique {test : α → Bool} {before after before' after' : List α}
    (h : before ++ after = before' ++ after')
    (hbefore : ∀ item, item ∈ before → test item = false)
    (hafter : ∀ item, item ∈ after → test item = true)
    (hbefore' : ∀ item, item ∈ before' → test item = false)
    (hafter' : ∀ item, item ∈ after' → test item = true) :
    before = before' ∧ after = after' := by
  have hfailing : ∀ first second : List α, (∀ item, item ∈ first → test item = false) →
      (∀ item, item ∈ second → test item = true) →
      (first ++ second).filter (fun item => !test item) = first := by
    intro first second hfirst hsecond
    have hkept : first.filter (fun item => !test item) = first :=
      List.filter_eq_self.mpr fun item hitem => by simp [hfirst item hitem]
    have hdropped : second.filter (fun item => !test item) = [] :=
      List.filter_eq_nil_iff.mpr fun item hitem => by simp [hsecond item hitem]
    rw [List.filter_append, hkept, hdropped, List.append_nil]
  have heq : before = before' := by
    rw [← hfailing before after hbefore hafter, h, hfailing before' after' hbefore' hafter']
  rw [heq] at h
  exact ⟨heq, List.append_cancel_left h⟩

theorem filter_mergeSort (htrans : ∀ a b c, le a b = true → le b c = true → le a c = true)
    (htotal : ∀ a b, (le a b || le b a) = true) (keep : α → Bool) (items : List α) :
    (items.mergeSort le).filter keep = (items.filter keep).mergeSort le := by
  -- An element is inserted after those that it may not precede, and before all others.
  have hinsert : ∀ (a : α) (rest : List α), ∃ before after,
      (a :: rest).mergeSort le = before ++ a :: after ∧ rest.mergeSort le = before ++ after ∧
        (∀ b, b ∈ before → le a b = false) ∧ ∀ b, b ∈ after → le a b = true := by
    intro a rest
    rcases List.mergeSort_cons htrans htotal a rest with ⟨before, after, hcons, hrest, hbefore⟩
    have hsorted := List.pairwise_mergeSort htrans htotal (a :: rest)
    rw [hcons] at hsorted
    have hafter := List.pairwise_cons.mp (List.pairwise_append.mp hsorted).2.1
    refine ⟨before, after, hcons, hrest, ?_, hafter.1⟩
    intro b hb
    simpa using hbefore b hb
  induction items with
  | nil => simp
  | cons a rest ih =>
      rcases hinsert a rest with ⟨before, after, hcons, hrest, hbefore, hafter⟩
      rw [hrest, List.filter_append] at ih
      rw [hcons, List.filter_append, List.filter_cons, List.filter_cons]
      by_cases hkeep : keep a = true
      · rcases hinsert a (rest.filter keep) with
          ⟨before', after', hcons', hrest', hbefore', hafter'⟩
        have hsplit := split_unique (ih.trans hrest')
          (fun b hb => hbefore b (List.mem_filter.mp hb).1)
          (fun b hb => hafter b (List.mem_filter.mp hb).1) hbefore' hafter'
        rw [if_pos hkeep, if_pos hkeep, hcons', hsplit.1, hsplit.2]
      · rw [if_neg hkeep, if_neg hkeep]
        exact ih

end Sorting

namespace Report

theorem precedes_trans (a b c : Violation) (hab : precedes a b = true)
    (hbc : precedes b c = true) : precedes a c = true :=
  Std.TransCmp.isLE_trans hab hbc

theorem precedes_total (a b : Violation) : (precedes a b || precedes b a) = true := by
  unfold precedes
  have hswap : compare b.location a.location = (compare a.location b.location).swap :=
    Std.OrientedCmp.eq_swap
  rw [hswap]
  cases compare a.location b.location <;> rfl

theorem sort_sorted (report : Report) :
    report.sort.violations.Pairwise fun a b => a.location.NotAfter b.location := by
  have hsorted := List.pairwise_mergeSort precedes_trans precedes_total report.violations
  exact hsorted.imp fun h => Location.isLE_compare_iff.mp h

end Report

/-!
# Findings of one rule
-/

namespace Analyzer

variable {analyzer : Analyzer} {unit : ExtractedUnit}

def withRules (analyzer : Analyzer) (rules : List UsageRule) : Analyzer :=
  { analyzer with rules }

theorem rule_of_mem_findings {rule : UsageRule} {violation : Violation}
    (h : violation ∈ analyzer.findings unit rule) : violation.rule = rule.info.name := by
  have hcheck : ∀ found, found ∈ rule.check unit.table unit.usages →
      found.rule = rule.info.name := by
    intro found hfound
    rcases List.mem_map.mp hfound with ⟨usage, _, heq⟩
    rw [← heq]
    rfl
  unfold findings at h
  cases hseverity : analyzer.config.ruleSeverity? rule.info.name with
  | none =>
      rw [hseverity] at h
      exact hcheck violation h
  | some severity =>
      rw [hseverity] at h
      rcases List.mem_map.mp h with ⟨found, hfound, heq⟩
      rw [← heq]
      exact hcheck found hfound

theorem filter_findings (rule : UsageRule) (name : String) :
    (analyzer.findings unit rule).filter (fun violation => violation.rule = name) =
      if rule.info.name = name then analyzer.findings unit rule else [] := by
  by_cases hname : rule.info.name = name
  · rw [if_pos hname]
    apply List.filter_eq_self.mpr
    intro violation hviolation
    simpa [rule_of_mem_findings hviolation] using hname
  · rw [if_neg hname]
    apply List.filter_eq_nil_iff.mpr
    intro violation hviolation
    simpa [rule_of_mem_findings hviolation] using hname

theorem flatMap_of_name {rules : List UsageRule} {rule : UsageRule} (hrule : rule ∈ rules)
    (hdistinct : (rules.map fun rule => rule.info.name).Nodup) :
    (rules.flatMap fun other =>
      if other.info.name = rule.info.name then analyzer.findings unit other else []) =
        analyzer.findings unit rule := by
  induction rules with
  | nil => cases hrule
  | cons first rest ih =>
      rw [List.map_cons, List.nodup_cons] at hdistinct
      rw [List.flatMap_cons]
      cases hrule with
      | head =>
          have hrest : (rest.flatMap fun other =>
              if other.info.name = rule.info.name then analyzer.findings unit other else []) =
                [] := by
            apply List.flatMap_eq_nil_iff.mpr
            intro other hother
            apply if_neg
            intro heq
            exact hdistinct.1 (List.mem_map.mpr ⟨other, hother, heq⟩)
          rw [if_pos rfl, hrest, List.append_nil]
      | tail _ hmem =>
          have hfirst : first.info.name ≠ rule.info.name := by
            intro heq
            exact hdistinct.1 (List.mem_map.mpr ⟨rule, hmem, heq.symm⟩)
          rw [if_neg hfirst, List.nil_append]
          exact ih hmem hdistinct.2

theorem enabledRules_single (rule : UsageRule) :
    (analyzer.withRules [rule]).enabledRules =
      if analyzer.config.isRuleEnabled rule.info.name = true then [rule] else [] := by
  unfold enabledRules withRules
  rw [List.filter_cons]
  rfl

theorem filter_unitFindings {rule : UsageRule} (hrule : rule ∈ analyzer.rules)
    (hdistinct : (analyzer.rules.map fun rule => rule.info.name).Nodup) :
    (analyzer.enabledRules.flatMap (analyzer.findings unit)).filter
        (fun violation => violation.rule = rule.info.name) =
      (analyzer.withRules [rule]).enabledRules.flatMap (analyzer.findings unit) := by
  rw [List.filter_flatMap, enabledRules_single]
  simp only [filter_findings]
  by_cases henabled : analyzer.config.isRuleEnabled rule.info.name = true
  · have hmem : rule ∈ analyzer.enabledRules := List.mem_filter.mpr ⟨hrule, henabled⟩
    have hsublist : analyzer.enabledRules.Sublist analyzer.rules := List.filter_sublist
    rw [if_pos henabled, flatMap_of_name hmem (hdistinct.sublist (hsublist.map _))]
    simp
  · rw [if_neg henabled]
    apply List.flatMap_eq_nil_iff.mpr
    intro other hother
    apply if_neg
    intro heq
    have henabled' := (List.mem_filter.mp hother).2
    rw [heq] at henabled'
    exact henabled henabled'

theorem filter_report {rule : UsageRule} (hrule : rule ∈ analyzer.rules)
    (hdistinct : (analyzer.rules.map fun rule => rule.info.name).Nodup)
    (units : List ExtractedUnit) :
    (analyzer.report units).violations.filter (fun violation => violation.rule = rule.info.name) =
      ((analyzer.withRules [rule]).report units).violations := by
  change (List.mergeSort _ Report.precedes).filter _ = List.mergeSort _ Report.precedes
  rw [filter_mergeSort Report.precedes_trans Report.precedes_total, List.filter_flatMap]
  simp only [filter_unitFindings hrule hdistinct]
  rfl

/-!
# Runs
-/

/-- What an analysis does before any rule comes in. -/
def extraction (analyzer : Analyzer) (units : List SourceUnit) :
    Except AnalysisError (List ExtractedUnit) :=
  let program := Program.ofUnits units
  let extracted := (program.extract (List.range units.length)).mapError AnalysisError.nesting
  match program.pathsWithErrors with
  | path :: _ => if analyzer.failOnParseError then .error (.syntaxErrors path) else extracted
  | [] => extracted

theorem run_eq (analyzer : Analyzer) (units : List SourceUnit) :
    analyzer.run units = (analyzer.extraction units).map analyzer.report := by
  have hfinish : run.finish analyzer (Program.ofUnits units) =
      (((Program.ofUnits units).extract (List.range units.length)).mapError
        AnalysisError.nesting).map analyzer.report := by
    unfold run.finish
    change _ = Except.map analyzer.report
      (((Program.ofUnits units).extract (List.range (Program.ofUnits units).units.length)).mapError
        AnalysisError.nesting)
    cases ((Program.ofUnits units).extract
      (List.range (Program.ofUnits units).units.length)).mapError AnalysisError.nesting <;> rfl
  unfold run extraction
  dsimp only
  cases (Program.ofUnits units).pathsWithErrors with
  | nil => exact hfinish
  | cons path rest =>
      cases analyzer.failOnParseError with
      | true => rfl
      | false => exact hfinish

theorem extract_of_extraction {units : List SourceUnit} {extracted : List ExtractedUnit}
    (h : analyzer.extraction units = .ok extracted) :
    (Program.ofUnits units).extract (List.range units.length) = .ok extracted := by
  have hmapped : ((Program.ofUnits units).extract (List.range units.length)).mapError
      AnalysisError.nesting = .ok extracted := by
    unfold extraction at h
    dsimp only at h
    split at h
    · split at h
      · cases h
      · exact h
    · exact h
  cases hextract : (Program.ofUnits units).extract (List.range units.length) with
  | error error =>
      rw [hextract] at hmapped
      cases hmapped
  | ok found =>
      rw [hextract] at hmapped
      cases hmapped
      rfl

end Analyzer

theorem Program.length_extract {program : Program} {numbers : List Nat}
    {extracted : List ExtractedUnit} (h : program.extract numbers = .ok extracted) :
    extracted.length = numbers.length := by
  induction numbers generalizing program extracted with
  | nil =>
      cases h
      rfl
  | cons number rest ih =>
      unfold Program.extract at h
      cases husages : program.usages number with
      | mk outcome later =>
          rw [husages] at h
          cases outcome with
          | error error => cases h
          | ok usages =>
              cases hrest : later.extract rest with
              | error error =>
                  simp only [hrest] at h
                  cases h
              | ok others =>
                  simp only [hrest] at h
                  cases h
                  rw [List.length_cons, ih hrest, List.length_cons]

def ApiRule.unsuppressedMatches (rule : ApiRule) (unit : ExtractedUnit) : List Usage :=
  unit.usages.filter fun usage =>
    !usage.isSuppressedFor rule.info.suppressionKeys &&
      rule.restriction.matchesUsage unit.table usage

/-- The violation for a usage, with the severity of the configuration if it has one. -/
def Config.violation (config : Config) (rule : ApiRule) (usage : Usage) : Violation :=
  { rule.info.violation usage with
    severity := (config.ruleSeverity? rule.info.name).getD rule.info.severity }

namespace Analyzer

theorem findings_eq (analyzer : Analyzer) (unit : ExtractedUnit) (rule : ApiRule) :
    analyzer.findings unit rule.toUsageRule =
      (rule.unsuppressedMatches unit).map (analyzer.config.violation rule) := by
  have hviolation : analyzer.config.violation rule = fun usage =>
      { rule.info.violation usage with
        severity := (analyzer.config.ruleSeverity? rule.info.name).getD rule.info.severity } := rfl
  have hname : rule.toUsageRule.info.name = rule.info.name := rfl
  unfold findings UsageRule.check
  rw [hviolation, hname]
  cases analyzer.config.ruleSeverity? rule.info.name with
  | none => rfl
  | some severity =>
      dsimp only
      rw [List.map_map]
      rfl

theorem perm_report_single (analyzer : Analyzer) (rule : ApiRule) (units : List ExtractedUnit) :
    ((analyzer.withRules [rule.toUsageRule]).report units).violations.Perm
      (if analyzer.config.isRuleEnabled rule.info.name = true then
        (units.flatMap rule.unsuppressedMatches).map (analyzer.config.violation rule)
      else []) := by
  have hperm := List.mergeSort_perm (units.flatMap fun unit =>
    (analyzer.withRules [rule.toUsageRule]).enabledRules.flatMap (analyzer.findings unit))
    Report.precedes
  refine hperm.trans (List.Perm.of_eq ?_)
  have henabled : (analyzer.withRules [rule.toUsageRule]).enabledRules =
      if analyzer.config.isRuleEnabled rule.info.name = true then [rule.toUsageRule] else [] :=
    enabledRules_single rule.toUsageRule
  rw [henabled]
  split
  · simp only [List.flatMap_cons, List.flatMap_nil, List.append_nil, findings_eq, List.map_flatMap]
  · simp

/-- The rules of an analyzer do not interfere.  Whether a run succeeds, its error and its counts do
not depend on them.  The violations are sorted, and those of a rule are the ones of a run with that
rule alone: none if it is disabled, else one for each usage that it matches and that is not
suppressed. -/
theorem rules_do_not_interfere (analyzer : Analyzer) (rules : List ApiRule)
    (hrules : analyzer.rules = rules.map ApiRule.toUsageRule)
    (hdistinct : (rules.map fun rule => rule.info.name).Nodup) (units : List SourceUnit) :
    (∀ others : List UsageRule,
      ((analyzer.withRules others).run units).map
          (fun report => (report.filesChecked, report.usagesChecked)) =
        (analyzer.run units).map fun report => (report.filesChecked, report.usagesChecked)) ∧
    ∀ report, analyzer.run units = .ok report →
      ∃ extracted,
        (Program.ofUnits units).extract (List.range units.length) = .ok extracted ∧
        report.filesChecked = units.length ∧
        report.usagesChecked = (extracted.flatMap fun unit => unit.usages).length ∧
        report.violations.Pairwise (fun a b => a.location.NotAfter b.location) ∧
        ∀ rule, rule ∈ rules → ∃ alone,
          (analyzer.withRules [rule.toUsageRule]).run units = .ok alone ∧
          report.violations.filter (fun violation => violation.rule = rule.info.name) =
            alone.violations ∧
          alone.violations.Perm
            (if analyzer.config.isRuleEnabled rule.info.name = true then
              (extracted.flatMap rule.unsuppressedMatches).map (analyzer.config.violation rule)
            else []) := by
  have hnames : (analyzer.rules.map fun rule => rule.info.name).Nodup := by
    rw [hrules, List.map_map]
    exact hdistinct
  constructor
  · intro others
    rw [run_eq, run_eq]
    change ((analyzer.extraction units).map _).map _ = _
    cases analyzer.extraction units with
    | error error => rfl
    | ok extracted => rfl
  · intro report hreport
    rw [run_eq] at hreport
    cases hextraction : analyzer.extraction units with
    | error error =>
        rw [hextraction] at hreport
        cases hreport
    | ok extracted =>
        rw [hextraction] at hreport
        cases hreport
        have hextract := extract_of_extraction hextraction
        have hlength := Program.length_extract hextract
        rw [List.length_range] at hlength
        refine ⟨extracted, hextract, hlength, rfl, Report.sort_sorted _, ?_⟩
        intro rule hrule
        have hmem : rule.toUsageRule ∈ analyzer.rules := by
          rw [hrules]
          exact List.mem_map_of_mem hrule
        have halone : (analyzer.withRules [rule.toUsageRule]).run units =
            .ok ((analyzer.withRules [rule.toUsageRule]).report extracted) := by
          rw [run_eq]
          change (analyzer.extraction units).map _ = _
          rw [hextraction]
          rfl
        exact ⟨_, halone, filter_report hmem hnames extracted,
          perm_report_single analyzer rule extracted⟩

end Analyzer

/-- The unit `package p; @Beta class A { A a; }`. -/
def restrictedField : SourceUnit where
  path := ⟨"A.java"⟩
  root := ⟨.other, true, none, 1, 1, 0, 33, "", [
    ⟨.packageDeclaration, true, none, 1, 1, 0, 10, "", [
      ⟨.identifier, true, none, 1, 9, 8, 1, "p", []⟩]⟩,
    ⟨.classDeclaration, true, none, 1, 12, 11, 22, "", [
      ⟨.modifiers, true, none, 1, 12, 11, 5, "", [
        ⟨.annotationMarker, true, none, 1, 12, 11, 5, "", [
          ⟨.identifier, true, some .name, 1, 13, 12, 4, "Beta", []⟩]⟩]⟩,
      ⟨.identifier, true, some .name, 1, 24, 23, 1, "A", []⟩,
      ⟨.classBody, true, some .body, 1, 26, 25, 8, "", [
        ⟨.fieldDeclaration, true, none, 1, 28, 27, 4, "", [
          ⟨.typeIdentifier, true, some .type, 1, 28, 27, 1, "A", []⟩,
          ⟨.variableDeclarator, true, some .declarator, 1, 30, 29, 1, "", [
            ⟨.identifier, true, some .name, 1, 30, 29, 1, "a", []⟩]⟩]⟩]⟩]⟩]⟩

def betaRule (name : String) : ApiRule where
  info := { name, code := "UA001" }
  restriction := { baseNamespace := "p", marker := "Beta" }

def asWarnings : RuleSettings where
  severity := some .warning

/-- Two rules that differ in their names only; the second one is to give warnings. -/
def twinAnalyzer : Analyzer where
  root := ⟨"/"⟩
  rules := [betaRule "first", betaRule "second"].map ApiRule.toUsageRule
  exclude := []
  config := { rules := (∅ : Std.TreeMap String RuleSettings).insert "second" asWarnings }
  failOnParseError := true

def twinWarning : Violation where
  code := "UA001"
  rule := "second"
  severity := .warning
  location := ⟨⟨"A.java"⟩, 1, 28, 27, 1⟩
  message := "[second] "

theorem twinAnalyzer_second :
    ([betaRule "first", betaRule "second"].map fun rule => rule.info.name).Nodup ∧
      ∃ report alone, twinAnalyzer.run [restrictedField] = .ok report ∧
        (twinAnalyzer.withRules [(betaRule "second").toUsageRule]).run [restrictedField] =
          .ok alone ∧
        report.violations.filter (fun violation => violation.rule = "second") =
          alone.violations ∧
        alone.violations.Perm [twinWarning] := by
  have hdistinct : ([betaRule "first", betaRule "second"].map
      fun rule => rule.info.name).Nodup := by
    decide
  have hexpected : ((Program.ofUnits [restrictedField]).extract (List.range 1)).map
      (fun extracted => (extracted.flatMap (betaRule "second").unsuppressedMatches).map
        (twinAnalyzer.config.violation (betaRule "second"))) = .ok [twinWarning] := by
    decide +kernel
  refine ⟨hdistinct, ?_⟩
  cases hextract : (Program.ofUnits [restrictedField]).extract (List.range 1) with
  | error error =>
      rw [hextract] at hexpected
      cases hexpected
  | ok extracted =>
      have hrun : twinAnalyzer.run [restrictedField] = .ok (twinAnalyzer.report extracted) := by
        rw [Analyzer.run_eq]
        change (((Program.ofUnits [restrictedField]).extract (List.range 1)).mapError
          AnalysisError.nesting).map twinAnalyzer.report = _
        rw [hextract]
        rfl
      rcases (Analyzer.rules_do_not_interfere twinAnalyzer [betaRule "first", betaRule "second"]
        rfl hdistinct [restrictedField]).2 _ hrun with ⟨found, hfound, _, _, _, hrules⟩
      rcases hrules (betaRule "second") (by simp) with ⟨alone, halone, hsame, hperm⟩
      refine ⟨_, alone, hrun, halone, hsame, ?_⟩
      have henabled : twinAnalyzer.config.isRuleEnabled (betaRule "second").info.name = true := by
        decide +kernel
      rw [if_pos henabled] at hperm
      have heq : extracted = found := Except.ok.inj (hextract.symm.trans hfound)
      rw [hextract, heq] at hexpected
      exact hperm.trans (List.Perm.of_eq (Except.ok.inj hexpected))

end RestrictedApi
