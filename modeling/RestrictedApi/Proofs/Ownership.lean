import RestrictedApi.Proofs.Attached
import RestrictedApi.Proofs.Bounds.Visit

/-!
# Owners and dotted names

The invariant of the symbol table: owners come first; packages, types and members are owned by what
encloses them; and the dotted name of a type is its name after that of its owner.  It holds of a
program and after any extractions, if every type has a name.
-/

namespace RestrictedApi

/-!
# Owners come first
-/

namespace Collected.Tells

variable {state : Collected} {roots : List Node} {ledger : List (CollectingUnit × List Entry)}
variable {id : SymbolId} {symbol : Symbol}

theorem symbol_of_package (h : state.Tells roots ledger)
    (hsymbol : state.table.get? id = some symbol) (hkind : symbol.kind = .package) :
    symbol = Symbol.ofPackage symbol.qualifiedName ((Text.qualifier? symbol.qualifiedName).bind
      fun qualifier => state.decls.packages[qualifier]?) := by
  have hfound := h.packages.symbol (h.packages.recorded hsymbol hkind)
  rw [hsymbol] at hfound
  exact Option.some.inj hfound

theorem ordered (h : state.Tells roots ledger) : state.table.Ordered := by
  intro id symbol owner hsymbol howner
  by_cases hkind : symbol.kind = .package
  · have hrecorded := h.packages.recorded hsymbol hkind
    rw [h.symbol_of_package hsymbol hkind] at howner
    rcases Option.bind_eq_some_iff.mp howner with ⟨qualifier, hqualifier, hpackage⟩
    rcases h.packages.outer hrecorded hqualifier with ⟨outer, houter, hbefore⟩
    rw [hpackage] at houter
    rw [Option.some.inj houter]
    exact hbefore
  · rcases h.entry_of hsymbol hkind with
      ⟨number, root, unit, entries, entry, _, hunit, hentry, hid, hentrySymbol⟩
    rw [← hentrySymbol] at howner
    rw [← hid]
    cases hunit.placed hentry with
    | type outer declaration houter _ _ _ _ hsymbolEq =>
        rw [hsymbolEq] at howner
        cases outer with
        | none => exact hunit.packageFirst howner hentry
        | some around =>
            cases howner
            exact (houter around rfl).2.2
    | member outer name kind _ _ hbefore _ _ _ hsymbolEq =>
        rw [hsymbolEq] at howner
        cases howner
        exact hbefore
    | typeParameter name first hbefore _ hsymbolEq =>
        rw [hsymbolEq] at howner
        cases howner
        exact hbefore

end Collected.Tells

namespace Program

theorem ordered_ofUnits (units : List SourceUnit) : (ofUnits units).table.Ordered := by
  rcases Collected.tells_ofUnits (units.map (·.root)) with ⟨ledger, htells⟩
  intro id symbol owner hsymbol howner
  rw [table_ofUnits, (collected units).get?_link id] at hsymbol
  rcases Option.map_eq_some_iff.mp hsymbol with ⟨before, hbefore, heq⟩
  rw [← heq] at howner
  exact htells.ordered id before owner hbefore howner

theorem ordered_after (units : List SourceUnit) (history : List Nat) :
    ((ofUnits units).after history).table.Ordered := by
  have hsteps : ∀ (program : Program), program.decls.Sound False program.table →
      program.table.Ordered → (program.after history).table.Ordered := by
    induction history with
    | nil => exact fun _ _ hordered => hordered
    | cons number rest ih =>
        intro program hdecls hordered
        change (after (program.usages number).2 rest).table.Ordered
        cases hsource : program.units[number]? with
        | none =>
            rw [usages_of_none hsource]
            exact ih program hdecls hordered
        | some source =>
            have hwalk := (program.walkedUnit number source).inRange_walk hdecls hordered
              source.root
            apply ih
            · rw [decls_usages, table_usages hsource]
              exact hwalk.decls
            · rw [table_usages hsource]
              exact hwalk.ordered
  exact hsteps (ofUnits units) (sound_ofUnits False.elim) (ordered_ofUnits units)

end Program

/-!
# What owns a symbol
-/

structure Symbol.WellPlaced (table : SymbolTable) (id : SymbolId) (symbol : Symbol) : Prop where
  owner : ∀ owner, symbol.owner = some owner → owner < id
  /-- A package is owned by the package around it, and no other symbol has its dotted name. -/
  package : symbol.kind = .package →
    symbol.qualifiedName = symbol.package ∧ symbol.name = Text.simpleName symbol.package ∧
      (Text.qualifier? symbol.package = none → symbol.owner = none) ∧
      (∀ qualifier, Text.qualifier? symbol.package = some qualifier → ∃ owner outer,
        symbol.owner = some owner ∧ table.get? owner = some outer ∧ outer.kind = .package ∧
          outer.qualifiedName = qualifier) ∧
      ∀ other found, table.get? other = some found → found.kind = .package →
        found.qualifiedName = symbol.qualifiedName → other = id
  /-- A type is in no package, or owned by its package or by a type of the same package. -/
  type : symbol.kind.isType = true →
    (symbol.owner = none ∧ symbol.package = "" ∧ symbol.qualifiedName = symbol.name) ∨
      ∃ owner outer, symbol.owner = some owner ∧ table.get? owner = some outer ∧
        (outer.kind = .package ∧ outer.qualifiedName = symbol.package ∨
          outer.kind.isType = true ∧ outer.package = symbol.package) ∧
        symbol.qualifiedName = outer.qualifiedName ++ "." ++ symbol.name
  /-- A member is owned by a type of the same package. -/
  member : symbol.kind.isMember = true →
    (∃ owner outer, symbol.owner = some owner ∧ table.get? owner = some outer ∧
      outer.kind.isType = true ∧ outer.package = symbol.package) ∧
      symbol.qualifiedName = symbol.name

theorem Entry.Placed.package_eq {unit : CollectingUnit} {known : List Entry} {entry : Entry}
    (h : entry.Placed unit known) : entry.symbol.package = unit.package := by
  cases h with
  | type _ _ _ _ _ _ _ hsymbol | member _ _ _ _ _ _ _ _ _ hsymbol
  | typeParameter _ _ _ _ hsymbol => rw [hsymbol]

theorem Collector.qualifiedTypeName_ne_empty (unit : CollectingUnit) (outer : Option Owner)
    {name : String} (hname : name ≠ "") : qualifiedTypeName unit outer name ≠ "" := by
  have hdotted : ∀ qualifier : String, qualifier ++ "." ++ name ≠ "" := by
    intro qualifier hempty
    have hlength := congrArg String.length hempty
    simp at hlength
  unfold qualifiedTypeName
  cases outer with
  | none =>
      dsimp only
      split
      · exact hname
      · exact hdotted _
  | some owner =>
      dsimp only
      split
      · split
        · exact hname
        · exact hdotted _
      · exact hdotted _

/-!
# Packages, types and members
-/

def TypesNamed (units : List SourceUnit) : Prop :=
  ∀ number source, units[number]? = some source →
    ∀ declaration, declaration ∈ Declaration.inUnit number source.root →
      declaration.kind.isType = true → declaration.name ≠ ""

namespace Collected.HoldsUnit

variable {state : Collected} {number : Nat} {root : Node} {unit : CollectingUnit}
variable {entries : List Entry} {entry : Entry}

theorem qualifiedName_ne_empty (h : state.HoldsUnit number root unit entries)
    (hnamed : ∀ declaration, declaration ∈ Declaration.inUnit number root →
      declaration.kind.isType = true → declaration.name ≠ "")
    (hentry : entry ∈ entries) (htype : entry.symbol.kind.isType = true) :
    entry.symbol.qualifiedName ≠ "" := by
  cases h.placed hentry with
  | type outer declaration _ hdeclaration _ _ hkind hsymbol =>
      rw [hsymbol]
      apply Collector.qualifiedTypeName_ne_empty
      exact hnamed declaration (h.mem_inUnit.mpr ⟨entry, hentry, hdeclaration⟩) hkind
  | member outer name kind _ _ _ _ _ hkind hsymbol =>
      rw [hsymbol] at htype
      exact absurd htype (Bool.eq_false_iff.mp (SymbolKind.isType_of_isMember hkind))
  | typeParameter name owner _ _ hsymbol =>
      rw [hsymbol] at htype
      cases htype

/-- An entry's owner, found in a table that extends the one of the collecting pass. -/
theorem get_around (h : state.HoldsUnit number root unit entries) {table : SymbolTable}
    (hextends : state.table.Extends table) (hentry : entry ∈ entries) :
    ∃ found, table.get? entry.id = some found ∧ found.kind = entry.symbol.kind ∧
      found.package = unit.package ∧ found.qualifiedName = entry.symbol.qualifiedName := by
  rcases hextends entry.id entry.symbol (h.holds hentry).symbol with ⟨annotations, hfound⟩
  exact ⟨_, hfound, rfl, (h.placed hentry).package_eq, rfl⟩

theorem type_placed (h : state.HoldsUnit number root unit entries) (hpackages : state.PackagesSound)
    {table : SymbolTable} (hextends : state.table.Extends table)
    (hnamed : ∀ declaration, declaration ∈ Declaration.inUnit number root →
      declaration.kind.isType = true → declaration.name ≠ "")
    (hentry : entry ∈ entries) (htype : entry.symbol.kind.isType = true) :
    (entry.symbol.owner = none ∧ entry.symbol.package = "" ∧
        entry.symbol.qualifiedName = entry.symbol.name) ∨
      ∃ owner outer, entry.symbol.owner = some owner ∧ table.get? owner = some outer ∧
        (outer.kind = .package ∧ outer.qualifiedName = entry.symbol.package ∨
          outer.kind.isType = true ∧ outer.package = entry.symbol.package) ∧
        entry.symbol.qualifiedName = outer.qualifiedName ++ "." ++ entry.symbol.name := by
  cases h.placed hentry with
  | type outer declaration houter _ _ _ _ hsymbol =>
      rw [hsymbol]
      cases outer with
      | none =>
          rcases h.located with ⟨hempty, hnone⟩ | ⟨hne, id, hid, hrecorded⟩
          · exact Or.inl ⟨hnone, hempty, if_pos hempty⟩
          · rcases hextends id _ (hpackages.symbol hrecorded) with ⟨annotations, hfound⟩
            exact Or.inr ⟨id, _, hid, hfound, Or.inl ⟨rfl, rfl⟩, if_neg hne⟩
      | some around =>
          rcases houter around rfl with ⟨haround, hisType, _⟩
          have hname := h.qualifiedName_ne_empty hnamed haround hisType.1
          rcases h.get_around hextends haround with ⟨found, hfound, hkind, hpackage, hqualified⟩
          refine Or.inr ⟨around.id, found, rfl, hfound, Or.inr ⟨?_, hpackage⟩, ?_⟩
          · rw [hkind]
            exact hisType.1
          · rw [hqualified]
            exact if_neg hname
  | member outer name kind _ _ _ _ _ hkind hsymbol =>
      rw [hsymbol] at htype
      exact absurd htype (Bool.eq_false_iff.mp (SymbolKind.isType_of_isMember hkind))
  | typeParameter name owner _ _ hsymbol =>
      rw [hsymbol] at htype
      cases htype

theorem member_placed (h : state.HoldsUnit number root unit entries) {table : SymbolTable}
    (hextends : state.table.Extends table) (hentry : entry ∈ entries)
    (hmember : entry.symbol.kind.isMember = true) :
    (∃ owner outer, entry.symbol.owner = some owner ∧ table.get? owner = some outer ∧
      outer.kind.isType = true ∧ outer.package = entry.symbol.package) ∧
      entry.symbol.qualifiedName = entry.symbol.name := by
  cases h.placed hentry with
  | type outer declaration _ _ _ _ hkind hsymbol =>
      rw [hsymbol] at hmember
      exact absurd hkind (Bool.eq_false_iff.mp (SymbolKind.isType_of_isMember hmember))
  | member outer name kind houter hisType _ _ _ _ hsymbol =>
      rw [hsymbol]
      rcases h.get_around hextends houter with ⟨found, hfound, hkind, hpackage, _⟩
      refine ⟨⟨outer.id, found, rfl, hfound, ?_, hpackage⟩, rfl⟩
      rw [hkind]
      exact hisType.1
  | typeParameter name owner _ _ hsymbol =>
      rw [hsymbol] at hmember
      cases hmember

end Collected.HoldsUnit

namespace Program

theorem package_placed {units : List SourceUnit} (history : List Nat) {id : SymbolId}
    {symbol : Symbol} (hsymbol : (collected units).table.get? id = some symbol)
    (hkind : symbol.kind = .package) :
    symbol.qualifiedName = symbol.package ∧ symbol.name = Text.simpleName symbol.package ∧
      (Text.qualifier? symbol.package = none → symbol.owner = none) ∧
      (∀ qualifier, Text.qualifier? symbol.package = some qualifier → ∃ owner outer,
        symbol.owner = some owner ∧
          ((ofUnits units).after history).table.get? owner = some outer ∧
          outer.kind = .package ∧ outer.qualifiedName = qualifier) ∧
      ∀ other found, ((ofUnits units).after history).table.get? other = some found →
        found.kind = .package → found.qualifiedName = symbol.qualifiedName → other = id := by
  rcases Collected.tells_ofUnits (units.map (·.root)) with ⟨ledger, htells⟩
  have hrecorded := htells.packages.recorded hsymbol hkind
  have hplain := htells.symbol_of_package hsymbol hkind
  generalize symbol.qualifiedName = full at hrecorded hplain ⊢
  rw [hplain]
  refine ⟨rfl, rfl, ?_, ?_, ?_⟩
  · intro hnone
    change (Text.qualifier? full).bind _ = none
    rw [show Text.qualifier? full = none from hnone]
    rfl
  · intro qualifier hqualifier
    rcases htells.packages.outer hrecorded hqualifier with ⟨owner, howner, _⟩
    rcases extends_after units history owner _ (htells.packages.symbol howner) with
      ⟨annotations, hfound⟩
    refine ⟨owner, _, ?_, hfound, rfl, rfl⟩
    change (Text.qualifier? full).bind _ = some owner
    rw [show Text.qualifier? full = some qualifier from hqualifier]
    exact howner
  · intro other found hfound hfoundKind hsame
    rcases get?_after_cases units history hfound with ⟨before, hbefore, heq⟩ | ⟨_, hlocal⟩
    · rw [heq] at hfoundKind hsame
      have hother := htells.packages.recorded hbefore hfoundKind
      change before.qualifiedName = full at hsame
      rw [hsame, hrecorded] at hother
      exact (Option.some.inj hother).symm
    · rw [hfoundKind] at hlocal
      exact absurd hlocal (by decide)

/-- After any extractions, every symbol fits into the table. -/
theorem symbols_wellPlaced (units : List SourceUnit) (hnamed : TypesNamed units)
    (history : List Nat) (id : SymbolId) (symbol : Symbol)
    (hsymbol : ((ofUnits units).after history).table.get? id = some symbol) :
    symbol.WellPlaced ((ofUnits units).after history).table id := by
  rcases Collected.tells_ofUnits (units.map (·.root)) with ⟨ledger, htells⟩
  have howner := ordered_after units history id symbol
  rcases get?_after_cases units history hsymbol with ⟨before, hbefore, heq⟩ | ⟨_, hlocal⟩
  · rw [heq]
    by_cases hkind : before.kind = .package
    · have hpackage := package_placed history hbefore hkind
      constructor
      · exact fun owner hown => howner owner hsymbol (by rw [heq]; exact hown)
      · exact fun _ => hpackage
      · intro htype
        change before.kind.isType = true at htype
        rw [hkind] at htype
        cases htype
      · intro hmember
        change before.kind.isMember = true at hmember
        rw [hkind] at hmember
        cases hmember
    · rcases htells.entry_of hbefore hkind with
        ⟨number, root, unit, entries, entry, hroot, hunit, hentry, _, hentrySymbol⟩
      have hextends := extends_after units history
      rw [← hentrySymbol] at heq ⊢
      constructor
      · exact fun owner hown => howner owner hsymbol (by rw [heq]; exact hown)
      · intro hpackage
        rw [← hentrySymbol] at hkind
        exact absurd hpackage hkind
      · refine hunit.type_placed htells.packages hextends ?_ hentry
        rw [List.getElem?_map] at hroot
        rcases Option.map_eq_some_iff.mp hroot with ⟨source, hsource, hsourceRoot⟩
        rw [← hsourceRoot]
        exact hnamed number source hsource
      · exact hunit.member_placed hextends hentry
  · constructor
    · exact fun owner hown => howner owner hsymbol hown
    all_goals
      revert hlocal
      generalize symbol.kind = kind
      cases kind <;> simp [SymbolKind.isType, SymbolKind.isMember]

end Program

/-- A class within a class, in a package within a package, with a method that has a parameter. -/
def nestedInPackage : SourceUnit where
  path := ⟨"A.java"⟩
  root := ⟨.other, true, none, 1, 1, 0, 60, "", [
    ⟨.packageDeclaration, true, none, 1, 1, 0, 12, "", [
      ⟨.scopedIdentifier, true, none, 1, 9, 8, 3, "a.b", []⟩]⟩,
    ⟨.classDeclaration, true, none, 2, 1, 13, 40, "", [
      ⟨.identifier, true, some .name, 2, 7, 19, 1, "A", []⟩,
      ⟨.classBody, true, some .body, 2, 9, 21, 32, "", [
        ⟨.classDeclaration, true, none, 2, 11, 23, 28, "", [
          ⟨.identifier, true, some .name, 2, 17, 29, 1, "B", []⟩,
          ⟨.classBody, true, some .body, 2, 19, 31, 20, "", [
            ⟨.methodDeclaration, true, none, 2, 21, 33, 16, "", [
              ⟨.identifier, true, some .name, 2, 26, 38, 1, "m", []⟩,
              ⟨.formalParameters, true, some .parameters, 2, 27, 39, 5, "", [
                ⟨.formalParameter, true, none, 2, 28, 40, 3, "", [
                  ⟨.typeIdentifier, true, some .type, 2, 28, 40, 1, "B", []⟩,
                  ⟨.identifier, true, some .name, 2, 30, 42, 1, "p", []⟩]⟩]⟩]⟩]⟩]⟩]⟩]⟩]⟩

theorem nestedInPackage_wellPlaced :
    let table := ((Program.ofUnits [nestedInPackage]).after [0]).table
    TypesNamed [nestedInPackage] ∧
      table.toList.map (fun symbol => (symbol.qualifiedName, symbol.owner)) =
        [("a", none), ("a.b", some 0), ("a.b.A", some 1), ("a.b.A.B", some 2), ("m", some 3),
          ("<init>", some 3), ("<init>", some 2), ("p", some 3)] ∧
      ∃ symbol, table.get? 3 = some symbol ∧ symbol.WellPlaced table 3 := by
  intro table
  have hnamed : TypesNamed [nestedInPackage] := by
    intro number source hsource
    cases number with
    | zero =>
        cases hsource
        decide +kernel
    | succ number => cases hsource
  have hsymbols : table.toList.map (fun symbol => (symbol.qualifiedName, symbol.owner)) =
      [("a", none), ("a.b", some 0), ("a.b.A", some 1), ("a.b.A.B", some 2), ("m", some 3),
        ("<init>", some 3), ("<init>", some 2), ("p", some 3)] := by
    decide +kernel
  have hsize : 3 < table.size := by
    rw [← SymbolTable.length_toList, ← List.length_map, hsymbols]
    decide
  rcases SymbolTable.lt_size_iff.mp hsize with ⟨symbol, hsymbol⟩
  exact ⟨hnamed, hsymbols, symbol, hsymbol,
    Program.symbols_wellPlaced [nestedInPackage] hnamed [0] 3 symbol hsymbol⟩

end RestrictedApi
