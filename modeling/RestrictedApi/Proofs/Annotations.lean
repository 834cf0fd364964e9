import Mathlib.Data.List.Nodup
import RestrictedApi.Proofs.Attached
import RestrictedApi.Proofs.Enclosing

/-!
# Annotations are attached exactly

Every declaration of a program has a symbol of its own, which carries the annotations written on the
declaration and no others, under the names that they have where the declaration stands.  Packages
carry what the units that declare them say, in the order of the units.  All other symbols, and so
all locals and type parameters, carry nothing.
-/

namespace RestrictedApi

/-!
# Symbols of declarations
-/

namespace Collected.HoldsUnit

variable {state : Collected} {number : Nat} {root : Node} {unit : CollectingUnit}
variable {entries : List Entry}

theorem isType_or_isMember (h : state.HoldsUnit number root unit entries) {entry : Entry}
    (hentry : entry ∈ entries) {declaration : Declaration}
    (hdeclaration : entry.declaration = some declaration) :
    (entry.symbol.kind.isType || entry.symbol.kind.isMember) = true := by
  cases h.placed hentry with
  | type outer found _ _ _ _ hkind hsymbol =>
      rw [hsymbol]
      exact Bool.or_eq_true_iff.mpr (Or.inl hkind)
  | member outer name kind _ _ _ _ _ hkind hsymbol =>
      rw [hsymbol]
      exact Bool.or_eq_true_iff.mpr (Or.inr hkind)
  | typeParameter name owner _ hnone _ =>
      rw [hdeclaration] at hnone
      cases hnone

theorem annotations_eq (h : state.HoldsUnit number root unit entries) {entry : Entry}
    (hentry : entry ∈ entries) : entry.symbol.annotations = [] := by
  cases h.placed hentry with
  | type _ _ _ _ _ _ _ hsymbol | member _ _ _ _ _ _ _ _ _ hsymbol
  | typeParameter _ _ _ _ hsymbol => rw [hsymbol]

end Collected.HoldsUnit

/-!
# The annotations of each symbol
-/

namespace Program

/-- The symbol that a declaration of a unit has, the types around it, and the annotations of the
symbol: those on the declaration, named as they are within these types. -/
structure Declares (program : Program) (number : Nat) (declaration : Declaration)
    (id : SymbolId) (symbol : Symbol) (chain : List SymbolId) : Prop where
  numbered : program.decls.sites[declaration.site.path]? = some id
  listed : program.table.get? id = some symbol
  name : symbol.name = declaration.name
  kind : symbol.kind = declaration.kind
  enclosing : declaration.enclosing.map (fun site => program.decls.sites[site.path]?) =
    chain.map some
  context : (chain.head?.map program.decls.enclosingChain).getD [] = chain
  annotations : symbol.annotations = declaration.holder.annotationNames.map fun name =>
    program.decls.annotationName program.table
      { target := id, unit := number, context := chain.head?, name }

variable {units : List SourceUnit} (history : List Nat)

theorem root_of_source {number : Nat} {source : SourceUnit}
    (hsource : units[number]? = some source) :
    (units.map (·.root))[number]? = some source.root := by
  rw [List.getElem?_map, hsource]
  rfl

theorem declares_of_entry {number : Nat} {root : Node} {unit : CollectingUnit}
    {entries : List Entry} (hunit : (collected units).HoldsUnit number root unit entries)
    {entry : Entry} (hentry : entry ∈ entries) {declaration : Declaration}
    (hdeclaration : entry.declaration = some declaration) :
    ∃ symbol, ((ofUnits units).after history).Declares number declaration entry.id symbol
      entry.chain := by
  have hholds := hunit.holds hentry
  have hsurrounds := (hunit.surrounds hentry hdeclaration).1.congr (sites_after units history)
    (outer_after units history)
  have hsame := hunit.symbol_eq hentry hdeclaration
  have hqueue : (collected units).queuedFor entry.id =
      declaration.holder.annotationNames.map fun name =>
        { target := entry.id, unit := number, context := entry.chain.head?, name } := by
    rw [hholds.queue, Entry.queue, hdeclaration]
    rfl
  refine ⟨_, ⟨?_, get?_after units history hholds.symbol, hsame.1, hsame.2, hsurrounds.sites_eq,
    hsurrounds.enclosingChain_eq, ?_⟩⟩
  · rw [sites_after]
    exact hholds.site hdeclaration
  · rw [Symbol.annotate, hunit.annotations_eq hentry, List.nil_append, hqueue, List.map_map]
    rfl

theorem declaration_unique {ledger : List (CollectingUnit × List Entry)} {roots : List Node}
    {state : Collected} (h : state.Tells roots ledger) {number other : Nat} {root tree : Node}
    (hroot : roots[number]? = some root) (htree : roots[other]? = some tree)
    {first second : Declaration} (hfirst : first ∈ Declaration.inUnit number root)
    (hsecond : second ∈ Declaration.inUnit other tree)
    (hsame : state.decls.sites[first.site.path]? = state.decls.sites[second.site.path]?) :
    first = second := by
  rcases h.unit_of hroot with ⟨unit, entries, hpage, hunit⟩
  rcases h.unit_of htree with ⟨unit', entries', hpage', hunit'⟩
  rcases hunit.mem_inUnit.mp hfirst with ⟨entry, hentry, hdeclaration⟩
  rcases hunit'.mem_inUnit.mp hsecond with ⟨entry', hentry', hdeclaration'⟩
  rw [(hunit.holds hentry).site hdeclaration, (hunit'.holds hentry').site hdeclaration'] at hsame
  have hmem : entry ∈ ledger.flatMap (·.2) :=
    List.mem_flatMap.mpr ⟨_, List.mem_of_getElem? hpage, hentry⟩
  have hmem' : entry' ∈ ledger.flatMap (·.2) :=
    List.mem_flatMap.mpr ⟨_, List.mem_of_getElem? hpage', hentry'⟩
  have heq : entry = entry' :=
    List.inj_on_of_nodup_map h.distinct hmem hmem' (Option.some.inj hsame)
  rw [heq, hdeclaration'] at hdeclaration
  exact (Option.some.inj hdeclaration).symm

theorem annotations_of_package {id : SymbolId} {symbol : Symbol}
    (hsymbol : ((ofUnits units).after history).table.get? id = some symbol)
    (hkind : symbol.kind = .package) :
    symbol.annotations = units.zipIdx.flatMap fun unit =>
      (Site.packageUses unit.2 unit.1.root symbol.qualifiedName id).map
        (((ofUnits units).after history).decls.annotationName
          ((ofUnits units).after history).table) := by
  rcases Collected.tells_ofUnits (units.map (·.root)) with ⟨ledger, htells⟩
  rcases get?_after_cases units history hsymbol with ⟨before, hbefore, heq⟩ | ⟨_, hlocal⟩
  · have hrecorded := htells.packages.recorded hbefore (by rw [heq] at hkind; exact hkind)
    have hplain := htells.packages.symbol hrecorded
    change (collected units).table.get? id = _ at hplain
    rw [hbefore] at hplain
    have hempty : before.annotations = [] := by
      rw [Option.some.inj hplain]
      rfl
    have hqueue := htells.packageQueue hrecorded
    change (collected units).queuedFor id = _ at hqueue
    rw [heq, Symbol.annotate, hempty, List.nil_append, hqueue, List.map_flatMap, List.zipIdx_map,
      List.flatMap_map]
    rfl
  · rw [hkind] at hlocal
    exact absurd hlocal (by decide)

theorem annotations_of_undeclared {id : SymbolId} {symbol : Symbol}
    (hsymbol : ((ofUnits units).after history).table.get? id = some symbol)
    (hkind : symbol.kind ≠ .package)
    (hundeclared : ∀ number source declaration, units[number]? = some source →
      declaration ∈ Declaration.inUnit number source.root →
      ((ofUnits units).after history).decls.sites[declaration.site.path]? ≠ some id) :
    symbol.annotations = [] := by
  rcases Collected.tells_ofUnits (units.map (·.root)) with ⟨ledger, htells⟩
  rcases get?_after_cases units history hsymbol with ⟨before, hbefore, heq⟩ | ⟨hempty, _⟩
  · have hkind' : before.kind ≠ .package := by
      rw [heq] at hkind
      exact hkind
    rcases htells.entry_of hbefore hkind' with
      ⟨number, root, unit, entries, entry, hroot, hunit, hentry, hid, hentrySymbol⟩
    cases hdeclaration : entry.declaration with
    | some declaration =>
        rw [List.getElem?_map] at hroot
        rcases Option.map_eq_some_iff.mp hroot with ⟨source, hsource, hsourceRoot⟩
        have hmem : declaration ∈ Declaration.inUnit number source.root := by
          rw [hsourceRoot]
          exact hunit.mem_inUnit.mpr ⟨entry, hentry, hdeclaration⟩
        have hsite := (hunit.holds hentry).site hdeclaration
        rw [hid] at hsite
        refine absurd ?_ (hundeclared number source declaration hsource hmem)
        rw [sites_after]
        exact hsite
    | none =>
        have hqueue := (hunit.holds hentry).queue
        rw [hid, Entry.queue, hdeclaration] at hqueue
        have hempty := hunit.annotations_eq hentry
        change (collected units).queuedFor id = [] at hqueue
        rw [heq, Symbol.annotate, hqueue, ← hentrySymbol, hempty]
        rfl
  · exact hempty

theorem annotations_of_local {id : SymbolId} {symbol : Symbol}
    (hsymbol : ((ofUnits units).after history).table.get? id = some symbol)
    (hkind : symbol.kind ∈ [.localVariable, .parameter, .exceptionParameter, .typeParameter]) :
    symbol.annotations = [] := by
  rcases Collected.tells_ofUnits (units.map (·.root)) with ⟨ledger, htells⟩
  apply annotations_of_undeclared history hsymbol
  · intro hpackage
    rw [hpackage] at hkind
    exact absurd hkind (by decide)
  · intro number source declaration hsource hdeclaration hsite
    rcases htells.unit_of (root_of_source hsource) with ⟨unit, entries, _, hunit⟩
    rcases hunit.mem_inUnit.mp hdeclaration with ⟨entry, hentry, hfound⟩
    rcases declares_of_entry history hunit hentry hfound with ⟨declared, hdeclares⟩
    have hid := hdeclares.numbered
    rw [hsite] at hid
    have hlisted := hdeclares.listed
    rw [← Option.some.inj hid, hsymbol] at hlisted
    -- Only types and members are declared.
    have hdeclared : (entry.symbol.kind.isType || entry.symbol.kind.isMember) = true :=
      hunit.isType_or_isMember hentry hfound
    rw [(hunit.symbol_eq hentry hfound).2, ← hdeclares.kind, ← Option.some.inj hlisted] at hdeclared
    revert hkind hdeclared
    generalize symbol.kind = kind
    cases kind <;> decide

theorem reports_of_local {usage : Usage} {symbol : Symbol}
    (hsymbol : usage.symbol? ((ofUnits units).after history).table = some symbol)
    (hkind : symbol.kind ∈ [.localVariable, .parameter, .exceptionParameter, .typeParameter])
    (rule : ApiRule) :
    rule.toUsageRule.reports ((ofUnits units).after history).table usage = false := by
  rcases Option.bind_eq_some_iff.mp hsymbol with ⟨id, _, hid⟩
  have hunmarked : symbol.carries rule.restriction.marker = false := by
    rw [Symbol.carries, annotations_of_local history hid hkind]
    rfl
  have hrestricted : rule.restriction.isRestricted ((ofUnits units).after history).table
      (some symbol) = false := by
    rw [Restriction.isRestricted, Restriction.ownerLimit, Restriction.restrictedWithin, hunmarked,
      Restriction.inheritsFromOwner_of_mem_appended hkind]
    split <;> rfl
  have hverdict : rule.restriction.matchesUsage ((ofUnits units).after history).table usage =
      false := by
    rw [Restriction.matchesUsage, hsymbol]
    split
    · rfl
    · dsimp only
      rw [hrestricted, Bool.and_false]
  rw [UsageRule.reports]
  change (!_ && rule.restriction.matchesUsage _ usage) = false
  rw [hverdict, Bool.and_false]

/-- After any extractions, every declaration has a symbol that no other declaration has, with the
annotations written on the declaration.  A package has those of the units that declare it, and no
other symbol has any. -/
theorem annotations_attached_exactly (units : List SourceUnit) (history : List Nat) :
    let program := (ofUnits units).after history
    (∀ number source, units[number]? = some source →
        ∀ declaration, declaration ∈ Declaration.inUnit number source.root →
          ∃ id symbol chain, program.Declares number declaration id symbol chain) ∧
      (∀ number source other tree, units[number]? = some source → units[other]? = some tree →
        ∀ first second, first ∈ Declaration.inUnit number source.root →
          second ∈ Declaration.inUnit other tree.root →
          program.decls.sites[first.site.path]? = program.decls.sites[second.site.path]? →
            first = second) ∧
      (∀ id symbol, program.table.get? id = some symbol → symbol.kind = .package →
        symbol.annotations = units.zipIdx.flatMap fun unit =>
          (Site.packageUses unit.2 unit.1.root symbol.qualifiedName id).map
            (program.decls.annotationName program.table)) ∧
      (∀ id symbol, program.table.get? id = some symbol → symbol.kind ≠ .package →
        (∀ number source declaration, units[number]? = some source →
          declaration ∈ Declaration.inUnit number source.root →
          program.decls.sites[declaration.site.path]? ≠ some id) →
        symbol.annotations = []) ∧
      ∀ (rule : ApiRule) usage symbol, usage.symbol? program.table = some symbol →
        symbol.kind ∈ [.localVariable, .parameter, .exceptionParameter, .typeParameter] →
        symbol.annotations = [] ∧ rule.toUsageRule.reports program.table usage = false := by
  intro program
  rcases Collected.tells_ofUnits (units.map (·.root)) with ⟨ledger, htells⟩
  refine ⟨?_, ?_, ?_, ?_, ?_⟩
  · intro number source hsource declaration hdeclaration
    rcases htells.unit_of (root_of_source hsource) with ⟨unit, entries, _, hunit⟩
    rcases hunit.mem_inUnit.mp hdeclaration with ⟨entry, hentry, hfound⟩
    rcases declares_of_entry history hunit hentry hfound with ⟨symbol, hdeclares⟩
    exact ⟨entry.id, symbol, entry.chain, hdeclares⟩
  · intro number source other tree hsource htree first second hfirst hsecond hsame
    rw [sites_after] at hsame
    exact declaration_unique htells (root_of_source hsource) (root_of_source htree) hfirst hsecond
      hsame
  · exact fun _ _ hsymbol hkind => annotations_of_package history hsymbol hkind
  · exact fun _ _ hsymbol hkind hundeclared =>
      annotations_of_undeclared history hsymbol hkind hundeclared
  · intro rule usage symbol hsymbol hkind
    rcases Option.bind_eq_some_iff.mp hsymbol with ⟨id, _, hid⟩
    exact ⟨annotations_of_local history hid hkind, reports_of_local history hsymbol hkind rule⟩

end Program

def annotationMarker (name : String) : Node :=
  ⟨.annotationMarker, true, none, 1, 1, 0, 2, "", [
    ⟨.identifier, true, some .name, 1, 2, 1, 1, name, []⟩]⟩

/-- An annotated class in an annotated package, with two fields that share their modifiers. -/
def sharedModifiers : SourceUnit where
  path := ⟨"A.java"⟩
  root := ⟨.other, true, none, 1, 1, 0, 60, "", [
    ⟨.packageDeclaration, true, none, 1, 1, 0, 13, "", [
      annotationMarker "P",
      ⟨.identifier, true, none, 1, 12, 11, 1, "a", []⟩]⟩,
    ⟨.classDeclaration, true, none, 2, 1, 14, 40, "", [
      ⟨.modifiers, true, none, 2, 1, 14, 2, "", [annotationMarker "M"]⟩,
      ⟨.identifier, true, some .name, 2, 10, 23, 1, "A", []⟩,
      ⟨.classBody, true, some .body, 2, 12, 25, 18, "", [
        ⟨.fieldDeclaration, true, none, 2, 14, 27, 14, "", [
          ⟨.modifiers, true, none, 2, 1, 14, 2, "", [annotationMarker "F"]⟩,
          ⟨.typeIdentifier, true, some .type, 2, 17, 30, 1, "A", []⟩,
          ⟨.variableDeclarator, true, some .declarator, 2, 19, 32, 1, "", [
            ⟨.identifier, true, some .name, 2, 19, 32, 1, "x", []⟩]⟩,
          ⟨.variableDeclarator, true, some .declarator, 2, 22, 35, 1, "", [
            ⟨.identifier, true, some .name, 2, 22, 35, 1, "y", []⟩]⟩]⟩]⟩]⟩]⟩

theorem sharedModifiers_attached :
    let program := (Program.ofUnits [sharedModifiers]).after [0]
    (Declaration.inUnit 0 sharedModifiers.root).map
        (fun declaration => (declaration.name, declaration.holder.annotationNames)) =
      [("A", [["M"]]), ("x", [["F"]]), ("y", [["F"]])] ∧
    (program.table.toList.map fun symbol => (symbol.name, symbol.annotations)) =
      [("a", ["P"]), ("A", ["M"]), ("x", ["F"]), ("y", ["F"]), ("<init>", [])] ∧
    ∀ declaration, declaration ∈ Declaration.inUnit 0 sharedModifiers.root →
      ∃ id symbol chain, program.Declares 0 declaration id symbol chain := by
  intro program
  refine ⟨by decide +kernel, by decide +kernel, ?_⟩
  exact (Program.annotations_attached_exactly [sharedModifiers] [0]).1 0 sharedModifiers rfl

end RestrictedApi
