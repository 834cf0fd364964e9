import RestrictedApi.Proofs.Records.Types

/-!
# Single-type imports

A single-type import decides what its simple name stands for, within types that do not hide the
name, as long as the program declares the imported type.  An import of a type from elsewhere does
not: the package of the unit and its on-demand imports are asked next, and the imported name is
taken for an annotation only if these do not know it either.
-/

namespace RestrictedApi

/-!
# The imports of a unit
-/

namespace Site

def singleImport? (site : Site) : Option DottedName :=
  match Collector.importParts site with
  | (name, false, false) => if name = [] then none else some name
  | _ => none

/-- The type that a unit imports under a simple name.  Of several imports the last one counts. -/
def importOf? (root : Site) (name : String) : Option DottedName :=
  ((root.namedChildren.filter fun child => child.kind = .importDeclaration).filterMap
    singleImport?).reverse.find? fun imported => imported.getLast?.getD "" = name

end Site

theorem Collector.singleTypes_addImport (names : UnitNames) (site : Site) (name : String) :
    (addImport names site).singleTypes[name]? =
      (site.singleImport?.toList.find? fun imported => imported.getLast?.getD "" = name).or
        names.singleTypes[name]? := by
  unfold addImport Site.singleImport?
  rcases importParts site with ⟨imported, static, onDemand⟩
  cases imported with
  | nil => cases static <;> cases onDemand <;> rfl
  | cons first rest =>
      cases static <;> cases onDemand
      · change (names.singleTypes.insert ((first :: rest).getLast?.getD "") _)[name]? = _
        by_cases hname : (first :: rest).getLast?.getD "" = name
        · rw [hname, getElem?_insert_self]
          simp [hname]
        · rw [getElem?_insert_of_ne (Ne.symm hname)]
          simp [hname]
      · rfl
      · rfl
      · rfl

theorem Site.singleTypes_unitNames (root : Site) (name : String) :
    root.unitNames.singleTypes[name]? = root.importOf? name := by
  have hfold : ∀ (sites : List Site) (names : UnitNames),
      (sites.foldl Collector.addImport names).singleTypes[name]? =
        ((sites.filterMap singleImport?).reverse.find? fun imported =>
          imported.getLast?.getD "" = name).or names.singleTypes[name]? := by
    intro sites
    induction sites with
    | nil => exact fun _ => rfl
    | cons site rest ih =>
        intro names
        rw [List.foldl_cons, ih, Collector.singleTypes_addImport, ← Option.or_assoc,
          ← List.find?_append, List.filterMap_cons]
        cases site.singleImport? with
        | none => simp
        | some imported => simp
  unfold unitNames importOf?
  rw [hfold]
  exact Option.or_none

theorem Site.place_of_mem_packageUses {number : Nat} {root : Node} {full : String} {id : SymbolId}
    {use : PendingAnnotation} (huse : use ∈ Site.packageUses number root full id) :
    use.unit = number ∧ use.context = none := by
  unfold packageUses at huse
  split at huse
  · cases huse
  · split at huse
    · rcases List.mem_map.mp huse with ⟨name, _, rfl⟩
      exact ⟨rfl, rfl⟩
    · cases huse

/-!
# What an import decides
-/

namespace Declarations

/-- No type parameter in scope and no member type of the enclosing types has the name. -/
structure Unhidden (decls : Declarations) (view : Viewpoint) (name : String) : Prop where
  parameter : TypeParameters.find? view.parameters name = none
  enclosingParameter : decls.enclosingParameter? view.enclosing name = none
  enclosingMember : decls.enclosingMember? view.enclosing name = none

/-- What is asked after the single-type imports: the package of the unit and the on-demand
imports. -/
def beyondImports? (decls : Declarations) (names : UnitNames) (name : String) : Option SymbolId :=
  decls.packageType? names.package name <|> decls.onDemandImport? names name

theorem simpleType_of_unhidden {decls : Declarations} {view : Viewpoint} {names : UnitNames}
    {name : String} (hnames : decls.units[view.unit]? = some names)
    (h : decls.Unhidden view name) :
    decls.simpleType? view name =
      (decls.singleImport? names name <|> decls.beyondImports? names name) := by
  rw [simpleType?, hnames, Option.bind_some, h.parameter, h.enclosingParameter, h.enclosingMember]
  rfl

theorem typeOf_singleton (decls : Declarations) (view : Viewpoint) (name : String) :
    decls.typeOf? view [name] = decls.simpleType? view name := by
  rw [typeOf?]
  cases decls.simpleType? view name <;> rfl

namespace Named

variable {decls : Declarations} {table : SymbolTable}

theorem memberType (h : decls.Named table) {type id : SymbolId} {name : String}
    (hid : decls.memberType? type name = some id) :
    ∃ symbol, table.get? id = some symbol ∧ symbol.kind.isType = true := by
  rcases List.exists_of_findSome?_eq_some hid with ⟨owner, _, howner⟩
  rcases Option.bind_eq_some_iff.mp howner with ⟨decl, hdecl, hmember⟩
  rcases h.inType hdecl hmember with ⟨_, symbol, _, hsymbol, hkind, _⟩
  exact ⟨symbol, hsymbol, hkind⟩

theorem beyondImports (h : decls.Named table) {names : UnitNames} {name : String} {id : SymbolId}
    (hid : decls.beyondImports? names name = some id) :
    ∃ symbol, table.get? id = some symbol ∧ symbol.kind.isType = true := by
  have hpackage : ∀ {package : String}, decls.packageType? package name = some id →
      ∃ symbol, table.get? id = some symbol ∧ symbol.kind.isType = true := by
    intro package hfound
    rcases h.inPackage hfound with ⟨symbol, hsymbol, hkind, _⟩
    exact ⟨symbol, hsymbol, hkind⟩
  simp only [Declarations.beyondImports?, Option.orElse_eq_orElse, Option.orElse_eq_or,
    Option.or_eq_some_iff] at hid
  rcases hid with hown | ⟨_, hdemand⟩
  · exact hpackage hown
  · rcases List.exists_of_findSome?_eq_some hdemand with ⟨imported, _, hfound⟩
    simp only [Option.orElse_eq_orElse, Option.orElse_eq_or, Option.or_eq_some_iff] at hfound
    rcases hfound with himported | ⟨_, hmember⟩
    · exact hpackage himported
    · rcases Option.bind_eq_some_iff.mp hmember with ⟨type, _, hmember⟩
      exact h.memberType hmember

end Named

end Declarations

namespace Program

def HasType (program : Program) (name : String) : Prop :=
  ∃ id symbol, program.table.get? id = some symbol ∧ symbol.kind.isType = true ∧
    symbol.qualifiedName = name

theorem typeNamed_cases {program : Program} (hnamed : program.decls.Named program.table)
    (imported : DottedName) :
    (∃ id symbol, program.decls.typeNamed? imported = some id ∧
      program.table.get? id = some symbol ∧ symbol.kind.isType = true ∧
      symbol.qualifiedName = imported.toText) ∨
    (program.decls.typeNamed? imported = none ∧ ¬ program.HasType imported.toText) := by
  cases hfound : program.decls.typeNamed? imported with
  | some id =>
      rcases hnamed.byName hfound with ⟨symbol, hsymbol, hkind, hname⟩
      exact Or.inl ⟨id, symbol, rfl, hsymbol, hkind, hname⟩
  | none =>
      refine Or.inr ⟨rfl, ?_⟩
      rintro ⟨id, symbol, hsymbol, hkind, hname⟩
      rcases hnamed.listed hsymbol hkind with ⟨other, hother⟩
      rw [hname] at hother
      rw [Declarations.typeNamed?, hother] at hfound
      cases hfound

theorem annotationName_of_import {program : Program} (hnamed : program.decls.Named program.table)
    {names : UnitNames} {name : String} {imported : DottedName} {use : PendingAnnotation}
    (hnames : program.decls.units[use.unit]? = some names)
    (himport : names.singleTypes[name]? = some imported) (hname : use.name = [name])
    (hunhidden : program.decls.Unhidden { unit := use.unit, enclosing :=
      (use.context.map program.decls.enclosingChain).getD [] } name) :
    program.decls.annotationName program.table use = imported.toText ↔
      program.HasType imported.toText ∨ program.decls.beyondImports? names name = none := by
  have hsingle : program.decls.singleImport? names name = program.decls.typeNamed? imported := by
    rw [Declarations.singleImport?, himport]
    rfl
  have hsimple := Declarations.simpleType_of_unhidden hnames hunhidden
  rw [hsingle] at hsimple
  unfold Declarations.annotationName
  dsimp only
  rw [hname, Declarations.typeOf_singleton]
  rcases typeNamed_cases hnamed imported with
    ⟨id, symbol, hfound, hsymbol, hkind, hqualified⟩ | ⟨hnone, hmissing⟩
  · rw [hfound, Option.orElse_eq_orElse, Option.orElse_some] at hsimple
    rw [hsimple, Option.bind_some, hsymbol]
    exact ⟨fun _ => Or.inl ⟨id, symbol, hsymbol, hkind, hqualified⟩, fun _ => hqualified⟩
  · rw [hnone, Option.orElse_eq_orElse, Option.orElse_none] at hsimple
    rw [hsimple]
    cases hbeyond : program.decls.beyondImports? names name with
    | none =>
        rw [Option.bind_none, hnames]
        dsimp only [Option.bind_some]
        rw [himport]
        simp
    | some id =>
        rcases hnamed.beyondImports hbeyond with ⟨symbol, hsymbol, hkind⟩
        rw [Option.bind_some, hsymbol]
        constructor
        · exact fun hqualified => Or.inl ⟨id, symbol, hsymbol, hkind, hqualified⟩
        · rintro (hpresent | hnever)
          · exact absurd hpresent hmissing
          · cases hnever

/-- What a simple name stands for in a unit that imports a type under this name, where nothing hides
it: the imported type if the program has it, and otherwise what the package of the unit or an
on-demand import makes of it.  Annotations of this name, on declarations of the unit and on its
package, are recorded under the imported name exactly if the program has the type, or neither the
package nor an on-demand import knows the name. -/
theorem singleImport_decides (units : List SourceUnit) (history : List Nat) {number : Nat}
    {source : SourceUnit} (hsource : units[number]? = some source) {name : String}
    {imported : DottedName}
    (himport : (Site.mk [number] source.root).importOf? name = some imported) :
    let program := (ofUnits units).after history
    let beyond := program.decls.beyondImports? (Site.mk [number] source.root).unitNames name
    (∀ view : Viewpoint, view.unit = number → program.decls.Unhidden view name →
      (program.HasType imported.toText → ∃ id symbol,
        program.decls.simpleType? view name = some id ∧ program.table.get? id = some symbol ∧
        symbol.kind.isType = true ∧ symbol.qualifiedName = imported.toText) ∧
      (¬ program.HasType imported.toText → program.decls.simpleType? view name = beyond)) ∧
    (∀ declaration, declaration ∈ Declaration.inUnit number source.root →
      ∃ id symbol chain, program.Declares number declaration id symbol chain ∧
        (program.decls.Unhidden { unit := number, enclosing := chain } name →
          ∀ i : Nat, declaration.holder.annotationNames[i]? = some [name] →
            (symbol.annotations[i]? = some imported.toText ↔
              program.HasType imported.toText ∨ beyond = none))) ∧
    (∀ id symbol, program.table.get? id = some symbol → symbol.kind = .package →
      ∀ use, use ∈ Site.packageUses number source.root symbol.qualifiedName id →
        use.name = [name] →
          program.decls.annotationName program.table use ∈ symbol.annotations ∧
          (program.decls.annotationName program.table use = imported.toText ↔
            program.HasType imported.toText ∨ beyond = none)) := by
  intro program beyond
  have hnamed : program.decls.Named program.table := named_after units history
  have hnames : program.decls.units[number]? = some (Site.mk [number] source.root).unitNames :=
    names_after units history hsource
  rw [← Site.singleTypes_unitNames] at himport
  refine ⟨?_, ?_, ?_⟩
  · rintro view rfl hunhidden
    have hsingle : program.decls.singleImport? (Site.mk [view.unit] source.root).unitNames name =
        program.decls.typeNamed? imported := by
      rw [Declarations.singleImport?, himport]
      rfl
    rw [Declarations.simpleType_of_unhidden hnames hunhidden, hsingle]
    rcases typeNamed_cases hnamed imported with
      ⟨id, symbol, hfound, hsymbol, hkind, hqualified⟩ | ⟨hnone, hmissing⟩
    · rw [hfound]
      refine ⟨fun _ => ⟨id, symbol, rfl, hsymbol, hkind, hqualified⟩, ?_⟩
      intro hmissing
      exact absurd ⟨id, symbol, hsymbol, hkind, hqualified⟩ hmissing
    · rw [hnone]
      exact ⟨fun hpresent => absurd hpresent hmissing, fun _ => rfl⟩
  · intro declaration hdeclaration
    rcases Collected.tells_ofUnits (units.map (·.root)) with ⟨ledger, htells⟩
    rcases htells.unit_of (root_of_source hsource) with ⟨unit, entries, _, hunit⟩
    rcases hunit.mem_inUnit.mp hdeclaration with ⟨entry, hentry, hfound⟩
    rcases declares_of_entry history hunit hentry hfound with ⟨symbol, hdeclares⟩
    refine ⟨entry.id, symbol, entry.chain, hdeclares, ?_⟩
    intro hunhidden i hi
    rw [hdeclares.annotations, List.getElem?_map, hi, Option.map_some, Option.some_inj]
    apply annotationName_of_import hnamed hnames himport rfl
    rw [hdeclares.context]
    exact hunhidden
  · intro id symbol hsymbol hkind use huse hname
    constructor
    · rw [annotations_of_package history hsymbol hkind]
      refine List.mem_flatMap.mpr ⟨(source, number), ?_, List.mem_map_of_mem huse⟩
      exact List.mem_zipIdx_iff_getElem?.mpr hsource
    · rcases Site.place_of_mem_packageUses huse with ⟨hunit, hcontext⟩
      have hunitNames : program.decls.units[use.unit]? =
          some (Site.mk [number] source.root).unitNames := by
        rw [hunit, hnames]
      refine annotationName_of_import hnamed hunitNames himport hname ?_
      rw [hcontext]
      exact ⟨rfl, rfl, rfl⟩

def flagIn (package : String) : SourceUnit where
  path := ⟨package ++ "/Flag.java"⟩
  root := ⟨.other, true, none, 1, 1, 0, 0, "", [
    ⟨.packageDeclaration, true, none, 1, 1, 0, 0, "", [
      ⟨.identifier, true, none, 1, 1, 0, 0, package, []⟩]⟩,
    ⟨.annotationTypeDeclaration, true, none, 1, 1, 0, 0, "", [
      ⟨.identifier, true, some .name, 1, 1, 0, 0, "Flag", []⟩]⟩]⟩

/-- The unit `package y; import x.Flag; @Flag class Use {}`. -/
def flagImporter : SourceUnit where
  path := ⟨"y/Use.java"⟩
  root := ⟨.other, true, none, 1, 1, 0, 0, "", [
    ⟨.packageDeclaration, true, none, 1, 1, 0, 0, "", [
      ⟨.identifier, true, none, 1, 1, 0, 0, "y", []⟩]⟩,
    ⟨.importDeclaration, true, none, 1, 1, 0, 0, "", [
      ⟨.scopedIdentifier, true, none, 1, 1, 0, 0, "x.Flag", []⟩]⟩,
    ⟨.classDeclaration, true, none, 1, 1, 0, 0, "", [
      ⟨.modifiers, true, none, 1, 1, 0, 0, "", [annotationMarker "Flag"]⟩,
      ⟨.identifier, true, some .name, 1, 1, 0, 0, "Use", []⟩]⟩]⟩

/-- The imported type comes before the one of the same package. -/
theorem singleImport_decides_flagImporter :
    let program := (ofUnits [flagIn "x", flagIn "y", flagImporter]).after [2]
    (Site.mk [2] flagImporter.root).importOf? "Flag" = some ["x", "Flag"] ∧
      program.HasType "x.Flag" ∧ program.HasType "y.Flag" ∧
      ∃ id symbol, program.decls.simpleType? { unit := 2 } "Flag" = some id ∧
        program.table.get? id = some symbol ∧ symbol.kind.isType = true ∧
        symbol.qualifiedName = "x.Flag" := by
  intro program
  have himport : (Site.mk [2] flagImporter.root).importOf? "Flag" = some ["x", "Flag"] := by
    decide +kernel
  have hfirst : program.HasType "x.Flag" := ⟨1, _, rfl, rfl, rfl⟩
  have hsecond : program.HasType "y.Flag" := ⟨3, _, rfl, rfl, rfl⟩
  refine ⟨himport, hfirst, hsecond, ?_⟩
  have hdecides := (singleImport_decides [flagIn "x", flagIn "y", flagImporter] [2] rfl himport).1
  exact (hdecides { unit := 2 } rfl ⟨rfl, rfl, rfl⟩).1 hfirst

/-- If the program lacks the imported type, the one of the same package takes its place. -/
theorem flagImporter_misled :
    let program := ofUnits [flagIn "y", flagImporter]
    (Site.mk [1] flagImporter.root).importOf? "Flag" = some ["x", "Flag"] ∧
      program.decls.typeNamed? ["x", "Flag"] = none ∧
      program.decls.simpleType? { unit := 1 } "Flag" = some 1 ∧
      (program.table.toList.map fun symbol => (symbol.qualifiedName, symbol.annotations)) =
        [("y", []), ("y.Flag", []), ("y.Use", ["y.Flag"]), ("<init>", [])] := by
  intro program
  refine ⟨?_, ?_, ?_, ?_⟩
  · decide +kernel
  · decide +kernel
  · decide +kernel
  · decide +kernel

end Program

end RestrictedApi
