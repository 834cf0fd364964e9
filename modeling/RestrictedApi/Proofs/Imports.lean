import RestrictedApi.Proofs.Noninterference
import RestrictedApi.Proofs.OwnerChain
import RestrictedApi.Proofs.Ownership
import RestrictedApi.Proofs.Reported

/-!
# Violations in imports

An import names declarations without using them, and a name selected within one is never reported.
The first segment of an import is no selection, however: it is reported if it is the whole base
namespace of a rule and the package of that name carries the annotation.  Nothing else in an import
is reported.
-/

namespace RestrictedApi

/-!
# Packages
-/

namespace Program

theorem symbol_of_package? (units : List SourceUnit) (history : List Nat) {name : String}
    {id : SymbolId} (hid : ((ofUnits units).after history).decls.package? name = some id) :
    ∃ symbol, ((ofUnits units).after history).table.get? id = some symbol ∧
      symbol.kind = .package ∧ symbol.qualifiedName = name ∧ symbol.package = name := by
  rcases Collected.tells_ofUnits (units.map (·.root)) with ⟨ledger, htells⟩
  have hrecorded : (collected units).decls.packages[name]? = some id := by
    rw [← (collected units).links_link.packages]
    rw [decls_after, decls_ofUnits] at hid
    exact hid
  have hsymbol := get?_after units history (htells.packages.symbol hrecorded)
  exact ⟨_, hsymbol, rfl, rfl, rfl⟩

end Program

namespace Restriction

variable {restriction : Restriction}

theorem containsNamespace_iff_of_isSimple {name : String} (hname : Text.isSimple name = true) :
    restriction.containsNamespace name = true ↔ name = restriction.baseNamespace := by
  have hdot : '.' ∉ name.toList := by
    simpa [Text.isSimple] using hname
  have hbelow : Text.begins name (restriction.baseNamespace ++ ".") = false := by
    rw [Text.begins, ← Bool.not_eq_true, List.isPrefixOf_iff_prefix]
    intro hbegins
    exact hdot (hbegins.subset (by simp))
  simp [containsNamespace, hbelow]

theorem isRestricted_of_package {table : SymbolTable} {symbol : Symbol}
    (hkind : symbol.kind = .package) :
    restriction.isRestricted table (some symbol) =
      (!restriction.exempts symbol && symbol.carries restriction.marker) := by
  rw [isRestricted, ownerLimit, restrictedWithin, hkind]
  cases restriction.exempts symbol <;> cases symbol.carries restriction.marker <;> rfl

/-- A usage is a bare name that is the whole base namespace, and the package of that name carries
the annotation. -/
structure NamesMarkedPackage (restriction : Restriction) (program : Program) (usage : Usage) :
    Prop where
  shape : usage.shape = .identifier
  name : usage.name = restriction.baseNamespace
  simple : Text.isSimple restriction.baseNamespace = true
  allowed : restriction.baseNamespace ≠ "super"
  covered : restriction.isIgnoredNamespace restriction.baseNamespace = false
  package : ∃ id symbol, program.decls.package? restriction.baseNamespace = some id ∧
    program.table.get? id = some symbol ∧ symbol.kind = .package ∧
    symbol.qualifiedName = restriction.baseNamespace ∧ restriction.exempts symbol = false ∧
    symbol.carries restriction.marker = true

theorem matchesUsage_iff (restriction : Restriction) (table : SymbolTable) (usage : Usage) :
    restriction.matchesUsage table usage = true ↔
      overlooks usage = false ∧ ∃ symbol, usage.symbol? table = some symbol ∧
        restriction.covers symbol.package = true ∧
        restriction.isRestricted table (some symbol) = true := by
  unfold matchesUsage
  cases overlooks usage <;> cases usage.symbol? table <;> simp

end Restriction

/-!
# References in imports
-/

def Reference.IsImported (reference : Reference) (root : Site) : Prop :=
  (root.ancestors reference.steps).any Site.isImport = true

namespace Program

/-- Of what an import names, a restriction matches exactly the base namespace. -/
theorem import_matches_iff (units : List SourceUnit) (history : List Nat) {number : Nat}
    {source : SourceUnit} (hshape : source.root.everywhere Node.isWellPlaced none = true)
    (hsimple : source.root.everywhere Node.isNamedSimply none = true) {reference : Reference}
    (hreference : reference ∈
      (((ofUnits units).after history).walk number source).references.toList)
    (himport : reference.IsImported ⟨[number], source.root⟩) (restriction : Restriction) :
    restriction.matchesUsage (((ofUnits units).after history).usages number).2.table
        reference.usage = true ↔
      restriction.NamesMarkedPackage (((ofUnits units).after history).usages number).2
        reference.usage := by
  rcases (((ofUnits units).after history).references_walk number
    (Site.grammatical_loose hshape)).2 reference hreference with ⟨above, site, hsite⟩
  have hinside : reference.usage.inImport = true := by
    rw [hsite.inImport, ← (hsite.reached rfl).2]
    exact himport
  rcases hsite.imported hinside with ⟨htoken, htext, hpackage⟩
  have hname : Text.isSimple reference.usage.name = true := by
    have hnode := ((Node.everywhere_iff _ _ _).mp (hsite.leads.everywhere hsimple)).1
    rw [htext]
    exact Node.isSimple_of_isNamedSimply hnode htoken
  have hnext : (((ofUnits units).after history).usages number).2 =
      (ofUnits units).after (history ++ [number]) := by
    simp [after]
  have hdecls : ((ofUnits units).after (history ++ [number])).decls =
      (((ofUnits units).after history).walkedUnit number source).decls := by
    rw [decls_after, walkedUnit, decls_after]
  rw [hnext, Restriction.matchesUsage_iff, Restriction.overlooks_eq_false_iff]
  rw [← hdecls] at hpackage
  constructor
  · -- A selection in an import is overlooked, so what is matched is the first segment.
    rintro ⟨⟨hselection, hsuper⟩, symbol, hsymbol, hcovers, hrestricted⟩
    have hshape : reference.usage.shape = .identifier := by
      cases hshape : reference.usage.shape with
      | identifier => rfl
      | memberSelect => exact absurd ⟨hshape, hinside⟩ hselection
    rcases Option.bind_eq_some_iff.mp hsymbol with ⟨id, hid, hfound⟩
    rw [hpackage hshape] at hid
    rcases symbol_of_package? units _ hid with ⟨recorded, hrecorded, hkind, hqualified, hfull⟩
    rw [hfound] at hrecorded
    cases hrecorded
    rw [hfull, Restriction.covers, Bool.and_eq_true, Bool.not_eq_true',
      Restriction.containsNamespace_iff_of_isSimple hname] at hcovers
    rw [Restriction.isRestricted_of_package hkind, Bool.and_eq_true, Bool.not_eq_true']
      at hrestricted
    rw [hcovers.2] at hname hid hqualified
    exact
      { shape := hshape
        name := hcovers.2
        simple := hname
        allowed := fun heq => hsuper ⟨hshape, hcovers.2.trans heq⟩
        covered := hcovers.2 ▸ hcovers.1
        package := ⟨id, symbol, hid, hfound, hkind, hqualified, hrestricted⟩ }
  · rintro ⟨hshape, hbase, _, hallowed, hcovered, id, symbol, hid, hfound, hkind, hqualified,
      hrestricted⟩
    rcases symbol_of_package? units _ hid with ⟨recorded, hrecorded, _, _, hfull⟩
    rw [hfound] at hrecorded
    cases hrecorded
    refine ⟨⟨?_, ?_⟩, symbol, ?_, ?_, ?_⟩
    · rintro ⟨hselection, _⟩
      rw [hshape] at hselection
      cases hselection
    · rintro ⟨_, hsuper⟩
      exact hallowed (hbase.symm.trans hsuper)
    · rw [Usage.symbol?, hpackage hshape, hbase, hid]
      exact hfound
    · rw [hfull, Restriction.covers, hcovered, Bool.not_false, Bool.true_and,
        Restriction.containsNamespace]
      simp
    · rw [Restriction.isRestricted_of_package hkind, hrestricted.1, hrestricted.2]
      rfl

end Program

/-!
# Runs of an analyzer
-/

theorem Program.getElem?_extract {program : Program} {numbers : List Nat}
    {extracted : List ExtractedUnit} (h : program.extract numbers = .ok extracted) {i number : Nat}
    (hnumber : numbers[i]? = some number) :
    ∃ unit, extracted[i]? = some unit ∧
      ((program.after (numbers.take i)).usages number).1 = .ok unit.usages ∧
      ((program.after (numbers.take i)).usages number).2.table = unit.table := by
  induction numbers generalizing program extracted i with
  | nil => cases hnumber
  | cons first rest ih =>
      unfold Program.extract at h
      cases husages : program.usages first with
      | mk outcome later =>
          rw [husages] at h
          cases outcome with
          | error error => cases h
          | ok usages =>
              cases hrest : later.extract rest with
              | error error =>
                  simp only [hrest] at h
                  cases h
              | ok others =>
                  simp only [hrest] at h
                  cases h
                  cases i with
                  | zero =>
                      cases hnumber
                      refine ⟨_, rfl, ?_⟩
                      change (program.usages number).1 = _ ∧ (program.usages number).2.table = _
                      rw [husages]
                      exact ⟨rfl, rfl⟩
                  | succ i =>
                      have hlater : program.after ((first :: rest).take (i + 1)) =
                          later.after (rest.take i) := by
                        rw [List.take_succ_cons, after, List.foldl_cons, husages]
                        rfl
                      rw [hlater]
                      exact ih hrest hnumber

namespace Analyzer

variable {analyzer : Analyzer} {rules : List ApiRule}

theorem mem_report_iff (hrules : analyzer.rules = rules.map ApiRule.toUsageRule)
    (extracted : List ExtractedUnit) (violation : Violation) :
    violation ∈ (analyzer.report extracted).violations ↔
      ∃ unit rule usage, unit ∈ extracted ∧ rule ∈ rules ∧
        analyzer.config.isRuleEnabled rule.info.name = true ∧
        usage ∈ rule.unsuppressedMatches unit ∧
        violation = analyzer.config.violation rule usage := by
  change violation ∈ List.mergeSort _ _ ↔ _
  rw [List.mem_mergeSort]
  simp only [List.mem_flatMap, enabledRules, List.mem_filter, hrules, List.mem_map]
  constructor
  · rintro ⟨unit, hunit, _, ⟨⟨rule, hrule, rfl⟩, henabled⟩, hviolation⟩
    rw [findings_eq] at hviolation
    rcases List.mem_map.mp hviolation with ⟨usage, husage, rfl⟩
    exact ⟨unit, rule, usage, hunit, hrule, henabled, husage, rfl⟩
  · rintro ⟨unit, rule, usage, hunit, hrule, henabled, husage, rfl⟩
    refine ⟨unit, hunit, rule.toUsageRule, ⟨⟨rule, hrule, rfl⟩, henabled⟩, ?_⟩
    rw [findings_eq]
    exact List.mem_map_of_mem husage

theorem extracted_of_run {units : List SourceUnit} {report : Report}
    (hrun : analyzer.run units = .ok report) :
    ∃ extracted, report = analyzer.report extracted ∧ extracted.length = units.length ∧
      ∀ number source, units[number]? = some source →
        ∃ unit, extracted[number]? = some unit ∧
          (((Program.ofUnits units).after (List.range number)).usages number).1 =
            .ok unit.usages ∧
          (((Program.ofUnits units).after (List.range number)).usages number).2.table =
            unit.table := by
  rw [run_eq] at hrun
  cases hextraction : analyzer.extraction units with
  | error error =>
      rw [hextraction] at hrun
      cases hrun
  | ok extracted =>
      rw [hextraction] at hrun
      cases hrun
      have hextract := extract_of_extraction hextraction
      have hlength := Program.length_extract hextract
      rw [List.length_range] at hlength
      refine ⟨extracted, rfl, hlength, ?_⟩
      intro number source hsource
      have hlt : number < units.length := (List.getElem?_eq_some_iff.mp hsource).1
      have hnumber : (List.range units.length)[number]? = some number := List.getElem?_range hlt
      have hfound := Program.getElem?_extract hextract hnumber
      rw [List.take_range, Nat.min_eq_left (Nat.le_of_lt hlt)] at hfound
      exact hfound

/-- A run reports of the names in imports exactly those that are the whole base namespace of a rule,
if the package of that name carries the annotation of the rule. -/
theorem import_violations_exact (analyzer : Analyzer) (rules : List ApiRule)
    (hrules : analyzer.rules = rules.map ApiRule.toUsageRule) (units : List SourceUnit)
    (hshape : ∀ source, source ∈ units → source.root.everywhere Node.isWellPlaced none = true)
    (hsimple : ∀ source, source ∈ units → source.root.everywhere Node.isNamedSimply none = true)
    (report : Report) (hrun : analyzer.run units = .ok report) :
    let before := fun number => (Program.ofUnits units).after (List.range number)
    let references := fun number source => ((before number).walk number source).references.toList
    (∀ violation, violation ∈ report.violations →
      ∃ rule number source reference, rule ∈ rules ∧ units[number]? = some source ∧
        reference ∈ references number source ∧
        violation = analyzer.config.violation rule reference.usage ∧
        (reference.IsImported ⟨[number], source.root⟩ →
          rule.restriction.NamesMarkedPackage ((before number).usages number).2
            reference.usage)) ∧
      ∀ rule number source reference, rule ∈ rules →
        analyzer.config.isRuleEnabled rule.info.name = true → units[number]? = some source →
        reference ∈ references number source → reference.IsImported ⟨[number], source.root⟩ →
        reference.usage.isSuppressedFor rule.info.suppressionKeys = false →
        rule.restriction.NamesMarkedPackage ((before number).usages number).2 reference.usage →
          analyzer.config.violation rule reference.usage ∈ report.violations := by
  intro before references
  rcases extracted_of_run hrun with ⟨extracted, rfl, hlength, hextracted⟩
  have hverdict : ∀ {number source reference}, units[number]? = some source →
      reference ∈ references number source → reference.IsImported ⟨[number], source.root⟩ →
      ∀ restriction : Restriction,
        restriction.matchesUsage ((before number).usages number).2.table reference.usage = true ↔
          restriction.NamesMarkedPackage ((before number).usages number).2 reference.usage :=
    fun {number source reference} hsource hreference himport restriction =>
      Program.import_matches_iff units (List.range number)
        (hshape source (List.mem_of_getElem? hsource))
        (hsimple source (List.mem_of_getElem? hsource)) hreference himport restriction
  constructor
  · intro violation hviolation
    rcases (mem_report_iff hrules extracted violation).mp hviolation with
      ⟨unit, rule, usage, hunit, hrule, _, husage, rfl⟩
    rcases List.mem_iff_getElem?.mp hunit with ⟨number, hnumber⟩
    have hlt : number < units.length := by
      rw [← hlength]
      exact (List.getElem?_eq_some_iff.mp hnumber).1
    have hsource : units[number]? = some units[number] := List.getElem?_eq_getElem hlt
    rcases hextracted number _ hsource with ⟨found, hfound, husages, htable⟩
    rw [hnumber] at hfound
    cases hfound
    rcases List.mem_filter.mp husage with ⟨hmem, htest⟩
    rw [← Program.map_usage_after hsource husages] at hmem
    rcases List.mem_map.mp hmem with ⟨reference, hreference, rfl⟩
    refine ⟨rule, number, _, reference, hrule, hsource, hreference, rfl, ?_⟩
    intro himport
    rw [Bool.and_eq_true, ← htable] at htest
    exact (hverdict hsource hreference himport rule.restriction).mp htest.2
  · intro rule number source reference hrule henabled hsource hreference himport hheard hnames
    rcases hextracted number source hsource with ⟨unit, hunit, husages, htable⟩
    refine (mem_report_iff hrules extracted _).mpr
      ⟨unit, rule, reference.usage, List.mem_of_getElem? hunit, hrule, henabled, ?_, rfl⟩
    have hmatches := (hverdict hsource hreference himport rule.restriction).mpr hnames
    refine List.mem_filter.mpr ⟨?_, ?_⟩
    · rw [← Program.map_usage_after hsource husages]
      exact List.mem_map_of_mem hreference
    · rw [hheard, ← htable, hmatches]
      rfl

end Analyzer

/-- The unit `@org.Beta package lib;`. -/
def markedPackage : SourceUnit where
  path := ⟨"lib/package-info.java"⟩
  root := ⟨.other, true, none, 1, 1, 0, 22, "", [
    ⟨.packageDeclaration, true, none, 1, 1, 0, 22, "", [
      ⟨.annotationMarker, true, none, 1, 1, 0, 9, "", [
        ⟨.scopedIdentifier, true, some .name, 1, 2, 1, 8, "org.Beta", [
          ⟨.identifier, true, some .scope, 1, 2, 1, 3, "org", []⟩,
          ⟨.identifier, true, some .name, 1, 6, 5, 4, "Beta", []⟩]⟩]⟩,
      ⟨.identifier, true, none, 1, 19, 18, 3, "lib", []⟩]⟩]⟩

/-- The unit `import lib.Thing;` of the package `app`. -/
def importingUnit : SourceUnit where
  path := ⟨"app/Main.java"⟩
  root := ⟨.other, true, none, 1, 1, 0, 31, "", [
    ⟨.packageDeclaration, true, none, 1, 1, 0, 12, "", [
      ⟨.identifier, true, none, 1, 9, 8, 3, "app", []⟩]⟩,
    ⟨.importDeclaration, true, none, 2, 1, 13, 17, "", [
      ⟨.scopedIdentifier, true, none, 2, 8, 20, 9, "lib.Thing", [
        ⟨.identifier, true, some .scope, 2, 8, 20, 3, "lib", []⟩,
        ⟨.identifier, true, some .name, 2, 12, 24, 5, "Thing", []⟩]⟩]⟩]⟩

/-- A rule whose base namespace has one segment. -/
def libraryRule : ApiRule where
  info := { name := "lib-beta", code := "LB001", summary := "lib is unstable" }
  restriction := { baseNamespace := "lib", marker := "org.Beta" }

def libraryAnalyzer : Analyzer where
  root := ⟨"/"⟩
  rules := [libraryRule.toUsageRule]
  exclude := []
  config := {}
  failOnParseError := false

def importedPackage : Reference where
  path := [0, 0, 1, 1]
  usage :=
    { shape := .identifier, name := "lib", location := ⟨⟨"app/Main.java"⟩, 2, 8, 20, 3⟩
      inImport := true, target := some 0 }

theorem exists_run_libraryAnalyzer :
    ∃ report, libraryAnalyzer.run [markedPackage, importingUnit] = .ok report := by
  have hok : (libraryAnalyzer.run [markedPackage, importingUnit]).toBool = true := by
    decide +kernel
  cases hrun : libraryAnalyzer.run [markedPackage, importingUnit] with
  | ok report => exact ⟨report, rfl⟩
  | error error =>
      rw [hrun] at hok
      cases hok

theorem mem_references_importedPackage :
    importedPackage ∈ (((Program.ofUnits [markedPackage, importingUnit]).after [0]).walk 1
      importingUnit).references.toList := by
  decide +kernel

theorem isImported_importedPackage : importedPackage.IsImported ⟨[1], importingUnit.root⟩ := by
  unfold Reference.IsImported
  decide

theorem namesMarkedPackage_importedPackage :
    libraryRule.restriction.NamesMarkedPackage
      (((Program.ofUnits [markedPackage, importingUnit]).after [0]).usages 1).2
      importedPackage.usage where
  shape := rfl
  name := rfl
  simple := by decide
  allowed := by decide
  covered := by decide +kernel
  package := by
    refine ⟨0, { Symbol.ofPackage "lib" none with annotations := ["org.Beta"] }, ?_⟩
    decide +kernel

theorem import_violations_exact_importedPackage :
    libraryAnalyzer.rules = [libraryRule].map ApiRule.toUsageRule ∧
      (∀ source, source ∈ [markedPackage, importingUnit] →
        source.root.everywhere Node.isWellPlaced none = true ∧
          source.root.everywhere Node.isNamedSimply none = true) ∧
      ∃ report, libraryAnalyzer.run [markedPackage, importingUnit] = .ok report ∧
        libraryAnalyzer.config.violation libraryRule importedPackage.usage ∈
          report.violations := by
  have hunits : ∀ source, source ∈ [markedPackage, importingUnit] →
      source.root.everywhere Node.isWellPlaced none = true ∧
        source.root.everywhere Node.isNamedSimply none = true := by
    intro source hsource
    rcases List.mem_pair.mp hsource with rfl | rfl <;> decide
  rcases exists_run_libraryAnalyzer with ⟨report, hrun⟩
  have hexact := Analyzer.import_violations_exact libraryAnalyzer [libraryRule] rfl
    [markedPackage, importingUnit] (fun source hsource => (hunits source hsource).1)
    (fun source hsource => (hunits source hsource).2) report hrun
  refine ⟨rfl, hunits, report, hrun, ?_⟩
  exact hexact.2 libraryRule 1 importingUnit importedPackage (List.mem_singleton_self _)
    (by decide +kernel) rfl mem_references_importedPackage isImported_importedPackage
    (by decide) namesMarkedPackage_importedPackage

/-- Something inside an import is reported. -/
theorem importedPackage_reported :
    ∃ report violation found,
      libraryAnalyzer.run [markedPackage, importingUnit] = .ok report ∧
        violation ∈ report.violations ∧
        Site.descend? ⟨[1], importingUnit.root⟩ importedPackage.steps = some found ∧
        violation.location = found.node.locationIn importingUnit.path ∧
        (Site.ancestors ⟨[1], importingUnit.root⟩ importedPackage.steps).any
          (fun above => above.kind = .importDeclaration) = true := by
  rcases exists_run_libraryAnalyzer with ⟨report, hrun⟩
  rcases Analyzer.extracted_of_run hrun with ⟨extracted, rfl, _, hextracted⟩
  rcases hextracted 1 importingUnit rfl with ⟨unit, hunit, husages, htable⟩
  have hmem : importedPackage.usage ∈ unit.usages := by
    rw [← ((Program.usages_eq_ok_iff rfl).mp husages).2]
    exact List.mem_map_of_mem mem_references_importedPackage
  have hmatches : libraryRule.restriction.matchesUsage unit.table importedPackage.usage = true := by
    rw [← htable]
    decide +kernel
  refine ⟨_, libraryAnalyzer.config.violation libraryRule importedPackage.usage,
    ⟨[0, 0, 1, 1], ⟨.identifier, true, some .scope, 2, 8, 20, 3, "lib", []⟩⟩, hrun, ?_, rfl, rfl,
    by decide⟩
  refine (Analyzer.mem_report_iff (show libraryAnalyzer.rules = [libraryRule].map _ from rfl)
    extracted _).mpr ⟨unit, libraryRule, importedPackage.usage, List.mem_of_getElem? hunit,
      List.mem_singleton_self _, by decide +kernel, ?_, rfl⟩
  refine List.mem_filter.mpr ⟨hmem, ?_⟩
  rw [hmatches]
  decide

end RestrictedApi
