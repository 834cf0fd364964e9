import RestrictedApi.Proofs.Noninterference
import RestrictedApi.Proofs.OwnerChain
import RestrictedApi.Rule.Preset

/-!
# Presets

The presets differ in the types that the built-in rule exempts.  An exemption takes away the usages
whose walk through the owners meets an exempt type before it ends, and nothing else: the violations
that are left are the same, in the same order.
-/

namespace RestrictedApi
namespace Restriction

/-- The walk from a symbol through its owners meets a type of one of the names.  It goes no further
than the first symbol with the annotation, and leaves only symbols of a kind that inherits. -/
inductive WalkMeets (marker : String) (table : SymbolTable) (names : List String) :
    Symbol → Prop where
  | here {symbol : Symbol} :
      symbol.qualifiedName ∈ names →
      WalkMeets marker table names symbol
  | above {symbol owner : Symbol} :
      symbol.carries marker = false →
      symbol.kind.inheritsFromOwner = true →
      symbol.owner.bind table.get? = some owner →
      WalkMeets marker table names owner →
      WalkMeets marker table names symbol

/-- The first restriction exempts the types of the second one and those of some more names, and
differs from it in nothing else. -/
structure ExemptsMore (names : List String) (narrow wide : Restriction) : Prop where
  marker : narrow.marker = wide.marker
  covers : ∀ package, narrow.covers package = wide.covers package
  exempts : ∀ symbol, narrow.exempts symbol = false ↔
    wide.exempts symbol = false ∧ symbol.qualifiedName ∉ names

section

variable {names : List String} {narrow wide : Restriction} {table : SymbolTable} {symbol : Symbol}
  {k : Nat}

theorem not_walkMeets_of_marked {marker : String} (hname : symbol.qualifiedName ∉ names)
    (hmarked : symbol.carries marker = true) : ¬ WalkMeets marker table names symbol := by
  intro hmeets
  cases hmeets with
  | here hmem => exact hname hmem
  | above hunmarked =>
      rw [hmarked] at hunmarked
      cases hunmarked

theorem not_walkMeets_of_owner {marker : String} {owner : Symbol}
    (hname : symbol.qualifiedName ∉ names) (howner : symbol.owner.bind table.get? = some owner)
    (habove : ¬ WalkMeets marker table names owner) : ¬ WalkMeets marker table names symbol := by
  intro hmeets
  cases hmeets with
  | here hmem => exact hname hmem
  | above _ _ howner' hmeets =>
      rw [howner] at howner'
      cases howner'
      exact habove hmeets

theorem ExemptsMore.markerAt_of_markerAt (h : ExemptsMore names narrow wide)
    (hmarker : narrow.MarkerAt table symbol k) :
    wide.MarkerAt table symbol k ∧ ¬ WalkMeets wide.marker table names symbol := by
  induction hmarker with
  | here hkept hmarked =>
      rw [h.marker] at hmarked
      rcases (h.exempts _).mp hkept with ⟨hwide, hname⟩
      exact ⟨MarkerAt.here hwide hmarked, not_walkMeets_of_marked hname hmarked⟩
  | above hkept hunmarked hinherits howner _ ih =>
      rw [h.marker] at hunmarked
      rcases (h.exempts _).mp hkept with ⟨hwide, hname⟩
      exact ⟨MarkerAt.above hwide hunmarked hinherits howner ih.1,
        not_walkMeets_of_owner hname howner ih.2⟩

theorem ExemptsMore.markerAt_of_not_walkMeets (h : ExemptsMore names narrow wide)
    (hmarker : wide.MarkerAt table symbol k)
    (hmeets : ¬ WalkMeets wide.marker table names symbol) : narrow.MarkerAt table symbol k := by
  induction hmarker with
  | here hkept hmarked =>
      have hnarrow := (h.exempts _).mpr ⟨hkept, fun hname => hmeets (WalkMeets.here hname)⟩
      rw [← h.marker] at hmarked
      exact MarkerAt.here hnarrow hmarked
  | above hkept hunmarked hinherits howner _ ih =>
      have hnarrow := (h.exempts _).mpr ⟨hkept, fun hname => hmeets (WalkMeets.here hname)⟩
      have habove := ih fun hmeets' =>
        hmeets (WalkMeets.above hunmarked hinherits howner hmeets')
      rw [← h.marker] at hunmarked
      exact MarkerAt.above hnarrow hunmarked hinherits howner habove

/-- The further exemptions take away the usages whose walk meets one of their types. -/
theorem ExemptsMore.matchesUsage_iff (h : ExemptsMore names narrow wide) (table : SymbolTable)
    (usage : Usage) :
    narrow.matchesUsage table usage = true ↔
      wide.matchesUsage table usage = true ∧
        ¬ ∃ first, usage.symbol? table = some first ∧
          WalkMeets wide.marker table names first := by
  rw [matchesUsage_iff_markerAt, matchesUsage_iff_markerAt]
  constructor
  · rintro ⟨hseen, first, hfirst, hcovers, k, hk, hmarker⟩
    rcases h.markerAt_of_markerAt hmarker with ⟨hwide, hmeets⟩
    rw [h.covers] at hcovers
    constructor
    · exact ⟨hseen, first, hfirst, hcovers, k, hk, hwide⟩
    · rintro ⟨other, hother, hmeets'⟩
      rw [hfirst] at hother
      cases hother
      exact hmeets hmeets'
  · rintro ⟨⟨hseen, first, hfirst, hcovers, k, hk, hmarker⟩, hmeets⟩
    rw [← h.covers] at hcovers
    have hnarrow := h.markerAt_of_not_walkMeets hmarker fun hmeets' =>
      hmeets ⟨first, hfirst, hmeets'⟩
    exact ⟨hseen, first, hfirst, hcovers, k, hk, hnarrow⟩

end

theorem isIgnoredType_ignoreTypes (restriction : Restriction) (names : List String)
    (name : String) :
    (restriction.ignoreTypes names).isIgnoredType name =
      (restriction.isIgnoredType name || names.contains name) := by
  unfold isIgnoredType ignoreTypes
  rw [Std.TreeSet.contains_insertMany_list]
  cases restriction.ignoredTypes.contains name <;> cases names.contains name <;> simp

theorem exemptsMore_ignoreTypes {names : List String} (restriction : Restriction)
    (hnames : "" ∉ names) : ExemptsMore names (restriction.ignoreTypes names) restriction where
  marker := rfl
  covers := fun _ => rfl
  exempts := by
    intro symbol
    rw [exempts_eq_false_iff, exempts_eq_false_iff, isIgnoredType_ignoreTypes]
    by_cases hname : symbol.qualifiedName = ""
    · simp [hname, hnames]
    · simp [hname]

theorem ExemptsMore.ignoreTypes {names : List String} {narrow wide : Restriction}
    (h : ExemptsMore names narrow wide) (more : List String) :
    ExemptsMore names (narrow.ignoreTypes more) (wide.ignoreTypes more) where
  marker := h.marker
  covers := h.covers
  exempts := by
    intro symbol
    have hexempts := h.exempts symbol
    rw [exempts_eq_false_iff, exempts_eq_false_iff] at hexempts ⊢
    rw [isIgnoredType_ignoreTypes, isIgnoredType_ignoreTypes]
    by_cases hname : symbol.qualifiedName = ""
    · simpa [hname] using hexempts
    · simp only [hname, ne_eq, not_false_eq_true, true_implies, Bool.or_eq_false_iff] at hexempts ⊢
      rw [hexempts]
      tauto

theorem covers_ignoreNamespaces (restriction : Restriction) (names : List String)
    (package : String) :
    (restriction.ignoreNamespaces names).covers package =
      (restriction.covers package && !names.contains package) := by
  have hcontains : (restriction.ignoreNamespaces names).containsNamespace package =
      restriction.containsNamespace package := rfl
  have hignored : (restriction.ignoreNamespaces names).isIgnoredNamespace package =
      (restriction.isIgnoredNamespace package || names.contains package) := by
    unfold isIgnoredNamespace ignoreNamespaces
    rw [Std.TreeSet.contains_insertMany_list]
    cases restriction.ignoredNamespaces.contains package <;> cases names.contains package <;> simp
  unfold covers
  rw [hcontains, hignored]
  cases restriction.isIgnoredNamespace package <;> cases names.contains package <;> simp

theorem ExemptsMore.ignoreNamespaces {names : List String} {narrow wide : Restriction}
    (h : ExemptsMore names narrow wide) (more : List String) :
    ExemptsMore names (narrow.ignoreNamespaces more) (wide.ignoreNamespaces more) where
  marker := h.marker
  covers := by
    intro package
    rw [covers_ignoreNamespaces, covers_ignoreNamespaces, h.covers]
  exempts := h.exempts

end Restriction

/-!
# The built-in rule
-/

namespace BetaRule

theorem info_configured (restriction : Restriction) (settings : RuleSettings) :
    (configured restriction settings).info =
      settings.severity.elim info fun severity => { info with severity } := by
  unfold configured
  cases settings.severity <;> rfl

theorem restriction_configured (restriction : Restriction) (settings : RuleSettings) :
    (configured restriction settings).restriction =
      (restriction.ignoreTypes (settings.strings "extra_ignored_types")).ignoreNamespaces
        (settings.strings "extra_ignored_packages") := by
  unfold configured
  cases settings.severity <;> rfl

theorem info_recommended (settings : Option RuleSettings) :
    (recommended settings).info = (strict settings).info := by
  unfold recommended strict
  rw [info_configured, info_configured]

theorem exemptsMore_recommended (settings : Option RuleSettings) :
    Restriction.ExemptsMore exemptTypes (recommended settings).restriction
      (strict settings).restriction := by
  unfold recommended strict
  rw [restriction_configured, restriction_configured]
  have hbase := Restriction.exemptsMore_ignoreTypes strictRestriction
    (show "" ∉ exemptTypes by decide)
  exact (hbase.ignoreTypes _).ignoreNamespaces _

theorem marker_strict (settings : Option RuleSettings) :
    (strict settings).restriction.marker = "com.google.common.annotations.Beta" := by
  unfold strict
  rw [restriction_configured]
  rfl

end BetaRule

/-!
# Reports of one rule

A run with one rule reports the usages that the rule matches, sorted by the locations of their
violations.
-/

namespace ApiRule

def allMatches (rule : ApiRule) (units : List ExtractedUnit) : List (ExtractedUnit × Usage) :=
  units.flatMap fun unit => (rule.unsuppressedMatches unit).map fun usage => (unit, usage)

theorem mem_of_mem_allMatches {rule : ApiRule} {units : List ExtractedUnit}
    {item : ExtractedUnit × Usage} (h : item ∈ rule.allMatches units) :
    item.1 ∈ units ∧ item.2 ∈ item.1.usages ∧
      rule.restriction.matchesUsage item.1.table item.2 = true := by
  rcases List.mem_flatMap.mp h with ⟨unit, hunit, hitem⟩
  rcases List.mem_map.mp hitem with ⟨usage, husage, rfl⟩
  rcases List.mem_filter.mp husage with ⟨hmem, htest⟩
  exact ⟨hunit, hmem, (Bool.and_eq_true_iff.mp htest).2⟩

theorem allMatches_eq_filter {narrow wide : ApiRule} (hinfo : narrow.info = wide.info)
    (hless : ∀ table usage, narrow.restriction.matchesUsage table usage = true →
      wide.restriction.matchesUsage table usage = true) (units : List ExtractedUnit) :
    narrow.allMatches units = (wide.allMatches units).filter
      fun item => narrow.restriction.matchesUsage item.1.table item.2 := by
  have hunit : ∀ unit, narrow.unsuppressedMatches unit =
      (wide.unsuppressedMatches unit).filter
        (narrow.restriction.matchesUsage unit.table) := by
    intro unit
    unfold unsuppressedMatches
    rw [hinfo, List.filter_filter]
    apply List.filter_congr
    intro usage _
    cases hnarrow : narrow.restriction.matchesUsage unit.table usage with
    | false => simp
    | true => simp [hless _ _ hnarrow]
  unfold allMatches
  rw [List.filter_flatMap]
  simp only [hunit, List.filter_map]
  rfl

end ApiRule

namespace Analyzer

/-- The matches of a rule in the order in which a report lists them; none if it is disabled. -/
def reported (analyzer : Analyzer) (rule : ApiRule) (units : List ExtractedUnit) :
    List (ExtractedUnit × Usage) :=
  if analyzer.config.isRuleEnabled rule.info.name = true then
    (rule.allMatches units).mergeSort fun a b =>
      Report.precedes (analyzer.config.violation rule a.2) (analyzer.config.violation rule b.2)
  else []

theorem violations_single (analyzer : Analyzer) (rule : ApiRule) (units : List ExtractedUnit) :
    ((analyzer.withRules [rule.toUsageRule]).report units).violations =
      (analyzer.reported rule units).map fun item => analyzer.config.violation rule item.2 := by
  have henabled : (analyzer.withRules [rule.toUsageRule]).enabledRules =
      if analyzer.config.isRuleEnabled rule.info.name = true then [rule.toUsageRule] else [] :=
    enabledRules_single rule.toUsageRule
  change (units.flatMap fun unit => (analyzer.withRules [rule.toUsageRule]).enabledRules.flatMap
    (analyzer.findings unit)).mergeSort Report.precedes = _
  unfold reported
  rw [henabled]
  split
  · rw [List.map_mergeSort (s := Report.precedes) fun _ _ _ _ => rfl]
    unfold ApiRule.allMatches
    simp only [List.flatMap_cons, List.flatMap_nil, List.append_nil, findings_eq,
      List.map_flatMap, List.map_map]
    rfl
  · have hnone : (units.flatMap fun unit => [].flatMap (analyzer.findings unit)) = [] :=
      List.flatMap_eq_nil_iff.mpr fun _ _ => rfl
    rw [hnone, List.mergeSort_nil, List.map_nil]

theorem mem_of_mem_reported {analyzer : Analyzer} {rule : ApiRule} {units : List ExtractedUnit}
    {item : ExtractedUnit × Usage} (h : item ∈ analyzer.reported rule units) :
    item ∈ rule.allMatches units := by
  unfold reported at h
  split at h
  · exact (List.mergeSort_perm _ _).mem_iff.mp h
  · cases h

theorem reported_eq_filter (analyzer : Analyzer) {narrow wide : ApiRule}
    (hinfo : narrow.info = wide.info)
    (hless : ∀ table usage, narrow.restriction.matchesUsage table usage = true →
      wide.restriction.matchesUsage table usage = true) (units : List ExtractedUnit) :
    analyzer.reported narrow units = (analyzer.reported wide units).filter
      fun item => narrow.restriction.matchesUsage item.1.table item.2 := by
  have hviolation : analyzer.config.violation narrow = analyzer.config.violation wide := by
    unfold Config.violation
    rw [hinfo]
  unfold reported
  rw [hinfo, hviolation, ApiRule.allMatches_eq_filter hinfo hless]
  split
  · rw [filter_mergeSort]
    · intro a b c
      exact Report.precedes_trans _ _ _
    · intro a b
      exact Report.precedes_total _ _
  · rfl

def withPreset (analyzer : Analyzer) (preset : Preset) (settings : Option RuleSettings) :
    Analyzer :=
  analyzer.withRules ((preset.rules settings).map ApiRule.toUsageRule)

/-- What the recommended preset reports is what the strict one reports, in the same order, but for
the usages whose walk through the owners meets an exempt type. -/
theorem recommended_sublist_strict (analyzer : Analyzer) (settings : Option RuleSettings)
    (units : List SourceUnit) {lenient strict : Report}
    (hlenient : (analyzer.withPreset .recommended settings).run units = .ok lenient)
    (hstrict : (analyzer.withPreset .strict settings).run units = .ok strict) :
    lenient.violations.Sublist strict.violations ∧
    ∃ (extracted : List ExtractedUnit) (found : List (ExtractedUnit × Usage))
      (kept : ExtractedUnit × Usage → Bool),
      (Program.ofUnits units).extract (List.range units.length) = .ok extracted ∧
      strict.violations =
        found.map (fun item => analyzer.config.violation (BetaRule.strict settings) item.2) ∧
      lenient.violations = (found.filter kept).map
        (fun item => analyzer.config.violation (BetaRule.strict settings) item.2) ∧
      ∀ item, item ∈ found → item.1 ∈ extracted ∧ item.2 ∈ item.1.usages ∧
        (kept item = false ↔ ∃ target, item.2.symbol? item.1.table = some target ∧
          Restriction.WalkMeets "com.google.common.annotations.Beta" item.1.table
            ["com.google.common.cache.Cache", "com.google.common.cache.LoadingCache"] target) := by
  rw [run_eq] at hlenient hstrict
  change (analyzer.extraction units).map _ = _ at hlenient hstrict
  cases hextraction : analyzer.extraction units with
  | error error =>
      rw [hextraction] at hstrict
      cases hstrict
  | ok extracted =>
      rw [hextraction] at hlenient hstrict
      cases hlenient
      cases hstrict
      have hmore := BetaRule.exemptsMore_recommended settings
      have hviolation : analyzer.config.violation (BetaRule.recommended settings) =
          analyzer.config.violation (BetaRule.strict settings) := by
        unfold Config.violation
        rw [BetaRule.info_recommended]
      have hkept := analyzer.reported_eq_filter (BetaRule.info_recommended settings)
        (fun table usage h => ((hmore.matchesUsage_iff table usage).mp h).1) extracted
      have hall : ((analyzer.withPreset .strict settings).report extracted).violations = _ :=
        analyzer.violations_single (BetaRule.strict settings) extracted
      have hsome : ((analyzer.withPreset .recommended settings).report extracted).violations = _ :=
        analyzer.violations_single (BetaRule.recommended settings) extracted
      rw [hkept, hviolation] at hsome
      constructor
      · rw [hsome, hall]
        exact List.filter_sublist.map _
      · refine ⟨extracted, _, _, extract_of_extraction hextraction, hall, hsome, ?_⟩
        intro item hitem
        rcases ApiRule.mem_of_mem_allMatches (mem_of_mem_reported hitem) with
          ⟨hunit, husage, hmatches⟩
        refine ⟨hunit, husage, ?_⟩
        have hiff := hmore.matchesUsage_iff item.1.table item.2
        rw [BetaRule.marker_strict] at hiff
        rw [Bool.eq_false_iff, Ne, hiff]
        change ¬ (_ ∧ ¬ _) ↔ _
        rw [not_and_not_right]
        exact ⟨fun h => h hmatches, fun h _ => h⟩

end Analyzer

/-- The declaration `@Beta class X { X x; }`, with a given name for the class. -/
def selfReferringClass (line : Nat) (name : String) : Node :=
  ⟨.classDeclaration, true, none, line, 1, 0, 40, "", [
    ⟨.modifiers, true, none, line, 1, 0, 5, "", [
      ⟨.annotationMarker, true, none, line, 1, 0, 5, "", [
        ⟨.identifier, true, some .name, line, 2, 1, 4, "Beta", []⟩]⟩]⟩,
    ⟨.identifier, true, some .name, line, 13, 12, name.length, name, []⟩,
    ⟨.classBody, true, some .body, line, 20, 19, 20, "", [
      ⟨.fieldDeclaration, true, none, line, 22, 21, 16, "", [
        ⟨.typeIdentifier, true, some .type, line, 22, 21, name.length, name, []⟩,
        ⟨.variableDeclarator, true, some .declarator, line, 36, 35, 1, "", [
          ⟨.identifier, true, some .name, line, 36, 35, 1, "x", []⟩]⟩]⟩]⟩]⟩

/-- Two classes of the package of the caches, one of them with an exempt name. -/
def cacheUnit : SourceUnit where
  path := ⟨"Cache.java"⟩
  root := ⟨.other, true, none, 1, 1, 0, 160, "", [
    ⟨.packageDeclaration, true, none, 1, 1, 0, 32, "", [
      ⟨.scopedIdentifier, true, none, 1, 9, 8, 23, "com.google.common.cache", []⟩]⟩,
    ⟨.importDeclaration, true, none, 2, 1, 33, 42, "", [
      ⟨.scopedIdentifier, true, none, 2, 8, 40, 34, "com.google.common.annotations.Beta", []⟩]⟩,
    selfReferringClass 3 "Cache",
    selfReferringClass 4 "Loader"]⟩

def cacheAnalyzer : Analyzer where
  root := ⟨"/"⟩
  rules := []
  exclude := []
  config := {}
  failOnParseError := true

theorem cacheAnalyzer_presets :
    ∃ lenient strict, (cacheAnalyzer.withPreset .recommended none).run [cacheUnit] = .ok lenient ∧
      (cacheAnalyzer.withPreset .strict none).run [cacheUnit] = .ok strict ∧
      lenient.violations.Sublist strict.violations ∧
      lenient.violations.length = 1 ∧ strict.violations.length = 2 := by
  have hmatches : ((Program.ofUnits [cacheUnit]).extract (List.range 1)).map
      (fun extracted => (((BetaRule.recommended none).allMatches extracted).length,
        ((BetaRule.strict none).allMatches extracted).length)) = .ok (1, 2) := by
    decide +kernel
  cases hextract : (Program.ofUnits [cacheUnit]).extract (List.range 1) with
  | error error =>
      rw [hextract] at hmatches
      cases hmatches
  | ok extracted =>
      rw [hextract] at hmatches
      have hcounts := Prod.mk.inj (Except.ok.inj hmatches)
      have hrun : ∀ preset : Preset, (cacheAnalyzer.withPreset preset none).run [cacheUnit] =
          .ok ((cacheAnalyzer.withPreset preset none).report extracted) := by
        intro preset
        rw [Analyzer.run_eq]
        change (((Program.ofUnits [cacheUnit]).extract (List.range 1)).mapError
          AnalysisError.nesting).map _ = _
        rw [hextract]
        rfl
      have hlength : ∀ rule : ApiRule, (cacheAnalyzer.reported rule extracted).length =
          (rule.allMatches extracted).length := by
        intro rule
        change List.length (if true = true then _ else _) = _
        rw [if_pos rfl, List.length_mergeSort]
      have hlenient : ((cacheAnalyzer.withPreset .recommended none).report
          extracted).violations = _ :=
        cacheAnalyzer.violations_single (BetaRule.recommended none) extracted
      have hstrict : ((cacheAnalyzer.withPreset .strict none).report extracted).violations = _ :=
        cacheAnalyzer.violations_single (BetaRule.strict none) extracted
      refine ⟨_, _, hrun .recommended, hrun .strict,
        (Analyzer.recommended_sublist_strict cacheAnalyzer none [cacheUnit] (hrun .recommended)
          (hrun .strict)).1, ?_, ?_⟩
      · rw [hlenient, List.length_map, hlength, hcounts.1]
      · rw [hstrict, List.length_map, hlength, hcounts.2]

end RestrictedApi
