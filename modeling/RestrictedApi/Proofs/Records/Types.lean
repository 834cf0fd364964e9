import RestrictedApi.Proofs.Annotations
import RestrictedApi.Proofs.Records
import RestrictedApi.Proofs.Supertypes

/-!
# Records of types and units

A type is recorded under its dotted name, in its package or in the type around it, so the maps from
names to types agree with the dotted names of the symbols.  With its members this gives the records
of a unit, and of a whole program.
-/

namespace RestrictedApi

/-!
# Types by their names
-/

theorem Declarations.packageType_insert {decls : Declarations} {package name : String}
    {id found : SymbolId} {within simple : String}
    (h : Declarations.packageType? { decls with
      packageTypes := decls.packageTypes.insert package
        ((decls.packageTypes[package]?.getD ∅).insert name id) } within simple = some found) :
    decls.packageType? within simple = some found ∨
      found = id ∧ within = package ∧ simple = name := by
  by_cases hpackage : within = package
  · subst hpackage
    unfold Declarations.packageType? at h
    rw [getElem?_insert_self, Option.bind_some] at h
    by_cases hname : simple = name
    · subst hname
      rw [getElem?_insert_self] at h
      exact Or.inr ⟨(Option.some.inj h).symm, rfl, rfl⟩
    · rw [getElem?_insert_of_ne hname] at h
      refine Or.inl ?_
      unfold Declarations.packageType?
      cases htypes : decls.packageTypes[within]? with
      | none =>
          rw [htypes] at h
          simp at h
      | some types =>
          rw [htypes] at h
          exact h
  · refine Or.inl ?_
    unfold Declarations.packageType? at h ⊢
    rwa [getElem?_insert_of_ne hpackage] at h

namespace Collected

theorem named_addType {first second : Collected} {id : SymbolId} {symbol : Symbol}
    (h : first.Named) (htable : first.table.toList <+: second.table.toList)
    (hsymbol : second.table.get? id = some symbol) (hkind : symbol.kind.isType = true)
    (hkinds : ∀ {other : SymbolId} {found : Symbol}, first.table.size ≤ other → other ≠ id →
      second.table.get? other = some found → found.kind.isType = false)
    (hnames : second.decls.typesByName = first.decls.typesByName.insert symbol.qualifiedName id)
    (hpackage : ∀ {package name : String} {found : SymbolId},
      second.decls.packageType? package name = some found →
      first.decls.packageType? package name = some found ∨
        found = id ∧ symbol.qualifiedName = if package = "" then name else package ++ "." ++ name)
    (hmember : ∀ {owner found : SymbolId} {decl : TypeDecl} {name : String},
      second.decls.types[owner]? = some decl → decl.memberTypes[name]? = some found →
      (∃ before, first.decls.types[owner]? = some before ∧
        before.memberTypes[name]? = some found) ∨
      found = id ∧ ∃ around, second.table.get? owner = some around ∧
        (around.qualifiedName ≠ "" →
          symbol.qualifiedName = around.qualifiedName ++ "." ++ name)) :
    second.Named where
  byName := by
    intro name found hfound
    rw [hnames] at hfound
    by_cases hname : name = symbol.qualifiedName
    · subst hname
      rw [getElem?_insert_self] at hfound
      cases hfound
      exact ⟨symbol, hsymbol, hkind, rfl⟩
    · rw [getElem?_insert_of_ne hname] at hfound
      rcases h.byName hfound with ⟨before, hbefore, hrest⟩
      exact ⟨before, SymbolTable.get?_of_isPrefix htable hbefore, hrest⟩
  listed := by
    intro other found hfound htype
    rw [hnames]
    by_cases hname : found.qualifiedName = symbol.qualifiedName
    · exact ⟨id, by rw [hname, getElem?_insert_self]⟩
    · rw [getElem?_insert_of_ne hname]
      by_cases hother : other < first.table.size
      · rcases SymbolTable.lt_size_iff.mp hother with ⟨before, hbefore⟩
        have hsame := SymbolTable.get?_of_isPrefix htable hbefore
        rw [hfound] at hsame
        cases hsame
        exact h.listed hbefore htype
      · by_cases hid : other = id
        · rw [hid, hsymbol] at hfound
          exact absurd (congrArg Symbol.qualifiedName (Option.some.inj hfound)).symm hname
        · rw [hkinds (Nat.le_of_not_lt hother) hid hfound] at htype
          cases htype
  inPackage := by
    intro package name found hfound
    rcases hpackage hfound with hbefore | ⟨heq, hname⟩
    · rcases h.inPackage hbefore with ⟨before, hbefore, hrest⟩
      exact ⟨before, SymbolTable.get?_of_isPrefix htable hbefore, hrest⟩
    · rw [heq]
      exact ⟨symbol, hsymbol, hkind, hname⟩
  inType := by
    intro owner found decl name hdecl hfound
    rcases hmember hdecl hfound with ⟨before, hbefore, hin⟩ | ⟨heq, around, haround, hname⟩
    · rcases h.inType hbefore hin with ⟨around, inner, haround, hinner, hrest⟩
      exact ⟨around, inner, SymbolTable.get?_of_isPrefix htable haround,
        SymbolTable.get?_of_isPrefix htable hinner, hrest⟩
    · rw [heq]
      exact ⟨around, symbol, haround, hsymbol, hkind, hname⟩

end Collected

namespace Collector

open Collected

variable {unit : CollectingUnit}

theorem recordType_none (site : Site) (name : String) (id : SymbolId)
    (typeParameters : TypeParameters) (state : Collected) :
    ((recordType unit none site name id typeParameters).run state).2 =
      { state with decls := { state.decls with
        packageTypes := state.decls.packageTypes.insert unit.package
          ((state.decls.packageTypes[unit.package]?.getD ∅).insert name id)
        typesByName := state.decls.typesByName.insert (qualifiedTypeName unit none name) id
        types := state.decls.types.insert id {
          unit := unit.unit, typeParameters
          superclassName := superclassName? site, interfaceNames := interfaceNames site } } } :=
  rfl

theorem recordType_some (around : Owner) (site : Site) (name : String) (id : SymbolId)
    (typeParameters : TypeParameters) (state : Collected) :
    ((recordType unit (some around) site name id typeParameters).run state).2 =
      { state with decls := { state.decls with
        typesByName :=
          state.decls.typesByName.insert (qualifiedTypeName unit (some around) name) id
        types := (state.decls.types.modify around.id (·.addMemberType name id)).insert id {
          unit := unit.unit, outer := some around.id, typeParameters
          superclassName := superclassName? site, interfaceNames := interfaceNames site } } } :=
  rfl

def typeSymbol (unit : CollectingUnit) (outer : Option Owner) (site : Site) (name : String) :
    Symbol where
  name := name
  qualifiedName := qualifiedTypeName unit outer name
  package := unit.package
  kind := typeKind site.kind
  owner := outer.map (·.id) <|> unit.packageSymbol

def withTypeSymbol (unit : CollectingUnit) (outer : Option Owner) (site : Site) (name : String)
    (state : Collected) : Collected :=
  ((do
    let id ← insertSymbol (typeSymbol unit outer site name)
    recordSite site id
    queueAnnotations unit.unit site id (outer.map Owner.id)).run state).2

theorem declareType_eq (outer : Option Owner) (site : Site) (name : String) (state : Collected) :
    (declareType unit outer site name).run state =
      let parametrized := (declareTypeParameters unit site state.table.size).run
        (withTypeSymbol unit outer site name state)
      (recordType unit outer site name state.table.size parametrized.1).run parametrized.2 := by
  cases outer <;> rfl

theorem memberTypes_recordType {outer : Option Owner} {site : Site} {name : String} {id : SymbolId}
    {typeParameters : TypeParameters} {state : Collected} {owner found : SymbolId} {decl : TypeDecl}
    {simple : String}
    (hdecl : ((recordType unit outer site name id typeParameters).run
      state).2.decls.types[owner]? = some decl)
    (hfound : decl.memberTypes[simple]? = some found) :
    (∃ before, state.decls.types[owner]? = some before ∧ before.memberTypes[simple]? = some found) ∨
      found = id ∧ simple = name ∧ ∃ around, outer = some around ∧ owner = around.id := by
  by_cases howner : owner = id
  · -- The type itself has no member types yet.
    subst howner
    cases outer with
    | none =>
        rw [recordType_none, getElem?_insert_self] at hdecl
        cases hdecl
        simp at hfound
    | some around =>
        rw [recordType_some, getElem?_insert_self] at hdecl
        cases hdecl
        simp at hfound
  · cases outer with
    | none =>
        rw [recordType_none, getElem?_insert_of_ne howner] at hdecl
        exact Or.inl ⟨decl, hdecl, hfound⟩
    | some around =>
        rw [recordType_some, getElem?_insert_of_ne howner, Std.TreeMap.getElem?_modify] at hdecl
        split at hdecl
        · rename_i heq
          rw [← Std.compare_eq_iff_eq.mp heq]
          rcases Option.map_eq_some_iff.mp hdecl with ⟨before, hbefore, hchange⟩
          rw [← hchange] at hfound
          by_cases hname : simple = name
          · subst hname
            refine Or.inr ⟨?_, rfl, around, rfl, rfl⟩
            have hself : some id = some found := getElem?_insert_self.symm.trans hfound
            exact (Option.some.inj hself).symm
          · exact Or.inl ⟨before, hbefore, (getElem?_insert_of_ne hname).symm.trans hfound⟩
        · exact Or.inl ⟨decl, hdecl, hfound⟩

theorem packageType_recordType {outer : Option Owner} {site : Site} {name : String} {id : SymbolId}
    {typeParameters : TypeParameters} {state : Collected} {package simple : String}
    {found : SymbolId}
    (h : ((recordType unit outer site name id typeParameters).run state).2.decls.packageType?
      package simple = some found) :
    state.decls.packageType? package simple = some found ∨
      found = id ∧ outer = none ∧ package = unit.package ∧ simple = name := by
  cases outer with
  | none =>
      rcases Declarations.packageType_insert h with hbefore | ⟨heq, hpackage, hname⟩
      · exact Or.inl hbefore
      · exact Or.inr ⟨heq, rfl, hpackage, hname⟩
  | some around => exact Or.inl h

theorem units_recordType (outer : Option Owner) (site : Site) (name : String) {id other : SymbolId}
    (typeParameters : TypeParameters) (state : Collected) (hother : other ≠ id) :
    ((recordType unit outer site name id typeParameters).run state).2.decls.types[other]?.map
      (·.unit) = state.decls.types[other]?.map (·.unit) := by
  cases outer with
  | none => rw [recordType_none, getElem?_insert_of_ne hother]
  | some around =>
      rw [recordType_some, getElem?_insert_of_ne hother]
      have hunit : ∀ decl : TypeDecl, (decl.addMemberType name id).unit = decl.unit := fun _ => rfl
      exact map_getElem?_modify _ _ hunit other

/-- A type has its symbol and its type parameters, but no record. -/
structure Announced (unit : CollectingUnit) (outer : Option Owner) (site : Site) (name : String)
    (first second : Collected) : Prop where
  later : first.Later (· = site.path) second
  recorded : second.decls.sites[site.path]? = some first.table.size
  symbol : second.table.get? first.table.size = some (typeSymbol unit outer site name)
  kinds : ∀ {id : SymbolId} {symbol : Symbol}, first.table.size ≤ id → id ≠ first.table.size →
    second.table.get? id = some symbol → symbol.kind.isType = false
  typesByName : second.decls.typesByName = first.decls.typesByName
  packageTypes : second.decls.packageTypes = first.decls.packageTypes
  memberTypes : ∀ id : SymbolId,
    second.decls.types[id]?.map (·.memberTypes) = first.decls.types[id]?.map (·.memberTypes)

theorem announced_declareTypeParameters (unit : CollectingUnit) (outer : Option Owner) (site : Site)
    (name : String) (state : Collected) :
    Announced unit outer site name state
      ((declareTypeParameters unit site state.table.size).run
        (withTypeSymbol unit outer site name state)).2 := by
  have hgrows := AddsMembers.declareTypeParameters unit site state.table.size
    (withTypeSymbol unit outer site name state) (Grows.refl (fun _ => False) _)
  have hlater : state.Later (· = site.path) (withTypeSymbol unit outer site name state) := by
    refine ⟨?_, fun _ _ => rfl, fun _ _ => rfl, fun _ hplace => getElem?_insert_of_ne hplace, rfl⟩
    change _ <+: (state.table.insert _).toList
    rw [SymbolTable.toList_insert]
    exact List.prefix_append _ _
  have hsymbol : (withTypeSymbol unit outer site name state).table.get? state.table.size =
      some (typeSymbol unit outer site name) :=
    (SymbolTable.get?_insert _ _ _).trans (if_pos rfl)
  have hsize : (withTypeSymbol unit outer site name state).table.size = state.table.size + 1 :=
    SymbolTable.size_insert _ _
  constructor
  · refine (hlater.trans hgrows.toLater).mono ?_
    rintro place (hplace | hnever)
    · exact hplace
    · cases hnever
  · exact (hgrows.sites _ not_false).trans getElem?_insert_self
  · exact SymbolTable.get?_of_isPrefix hgrows.table hsymbol
  · intro id symbol hid hne
    apply hgrows.kinds
    rw [hsize]
    exact Nat.lt_of_le_of_ne hid hne.symm
  · exact hgrows.typesByName
  · exact hgrows.packageTypes
  · exact hgrows.memberTypes

namespace Announced

variable {outer : Option Owner} {site : Site} {name : String} {first second : Collected}

theorem named (h : Announced unit outer site name first second)
    (typeParameters : TypeParameters) (hnamed : first.Named)
    (houter : ∀ around, outer = some around → first.Knows around) :
    ((recordType unit outer site name first.table.size typeParameters).run second).2.Named := by
  have htable : ((recordType unit outer site name first.table.size typeParameters).run
      second).2.table = second.table := by
    cases outer <;> rfl
  have hnames : ((recordType unit outer site name first.table.size typeParameters).run
      second).2.decls.typesByName =
        first.decls.typesByName.insert (qualifiedTypeName unit outer name) first.table.size := by
    rw [← h.typesByName]
    cases outer <;> rfl
  refine named_addType hnamed ?_ (htable ▸ h.symbol) (Keeps.isType_typeKind site.kind) ?_ hnames ?_
    ?_
  · rw [htable]
    exact h.later.table
  · rw [htable]
    exact h.kinds
  · intro package simple found hfound
    rcases packageType_recordType hfound with hbefore | ⟨heq, hnone, hpackage, hsimple⟩
    · unfold Declarations.packageType? at hbefore ⊢
      rw [h.packageTypes] at hbefore
      exact Or.inl hbefore
    · subst hnone hpackage hsimple
      exact Or.inr ⟨heq, rfl⟩
  · intro owner found decl simple hdecl hfound
    rcases memberTypes_recordType hdecl hfound with
      ⟨before, hbefore, hin⟩ | ⟨heq, hsimple, around, haround, howner⟩
    · have htypes := h.memberTypes owner
      rw [hbefore] at htypes
      rcases Option.map_eq_some_iff.mp htypes.symm with ⟨old, hold, hmembers⟩
      have hmembers : old.memberTypes = before.memberTypes := hmembers
      exact Or.inl ⟨old, hold, hmembers ▸ hin⟩
    · refine Or.inr ⟨heq, ?_⟩
      rcases houter around haround with ⟨symbol, hsymbol, hname⟩
      subst howner hsimple
      refine ⟨symbol, htable ▸ SymbolTable.get?_of_isPrefix h.later.table hsymbol, ?_⟩
      intro hne
      rw [hname] at hne ⊢
      rw [typeSymbol, haround]
      exact if_neg hne

theorem records (h : Announced unit outer site name first second)
    (typeParameters : TypeParameters) (enclosing : List Site) (hnamed : first.Named)
    (houter : ∀ around, outer = some around → first.Knows around) :
    first.Records unit.unit (· = site.path)
      [⟨site, site, name, typeKind site.kind, enclosing⟩]
      ((recordType unit outer site name first.table.size typeParameters).run second).2 := by
  have hsize : first.table.size < second.table.size :=
    SymbolTable.lt_size_iff.mpr ⟨_, h.symbol⟩
  refine ⟨⟨?_, ?_, ?_, ?_, ?_⟩, h.named typeParameters hnamed houter, ?_⟩
  · cases outer <;> exact h.later.table
  · cases outer <;> exact h.later.members
  · intro id hid
    rw [units_recordType _ _ _ _ _ (Nat.ne_of_lt hid)]
    exact h.later.units id hid
  · cases outer <;> exact h.later.sites
  · cases outer <;> exact h.later.names
  · intro declaration hdeclaration
    rw [List.mem_singleton.mp hdeclaration]
    constructor
    · intro _
      refine ⟨first.table.size, ?_⟩
      cases outer with
      | none => exact ⟨h.recorded, hsize, congrArg (Option.map _) getElem?_insert_self⟩
      | some around => exact ⟨h.recorded, hsize, congrArg (Option.map _) getElem?_insert_self⟩
    · intro hkind
      have hkind : typeKind site.kind = .field ∨ typeKind site.kind = .method := hkind
      have htype := Keeps.isType_typeKind site.kind
      rcases hkind with hkind | hkind <;> rw [hkind] at htype <;> cases htype

end Announced

theorem records_declareType (outer : Option Owner) (site : Site) (name : String)
    (enclosing : List Site) {state : Collected} (hnamed : state.Named)
    (houter : ∀ around, outer = some around → state.Knows around) :
    state.Records unit.unit (· = site.path)
        [⟨site, site, name, typeKind site.kind, enclosing⟩]
        ((declareType unit outer site name).run state).2 ∧
      ((declareType unit outer site name).run state).2.Knows
        ((declareType unit outer site name).run state).1 := by
  rw [declareType_eq]
  have hannounced := announced_declareTypeParameters unit outer site name state
  refine ⟨hannounced.records _ enclosing hnamed houter, typeSymbol unit outer site name, ?_⟩
  cases outer <;> exact ⟨hannounced.symbol, rfl⟩

theorem records_withinType {outer : Option Owner} (site : Site) {name : String}
    {enclosing : List Site} {members : List Declaration} {next : Owner → Collector Unit}
    {state : Collected} (hnamed : state.Named)
    (houter : ∀ around, outer = some around → state.Knows around)
    (hnext : ∀ (type : Owner) (middle : Collected), middle.Named → middle.Knows type →
      middle.Records unit.unit (fun place => ∃ i, (i :: site.path) <:+ place) members
        ((next type).run middle).2) :
    state.Records unit.unit (site.path <:+ ·)
      (⟨site, site, name, typeKind site.kind, enclosing⟩ :: members)
      ((declareType unit outer site name >>= next).run state).2 := by
  rcases records_declareType outer site name enclosing hnamed houter with ⟨htype, hknown⟩
  have hmembers := hnext _ _ htype.named hknown
  refine (htype.append hmembers ?_).mono ?_
  · intro declaration hdeclaration
    rw [List.mem_singleton.mp hdeclaration]
    rintro ⟨i, hbelow⟩
    have hlength := hbelow.length_le
    rw [List.length_cons] at hlength
    exact Nat.not_succ_le_self _ hlength
  · rintro place (hplace | ⟨i, hbelow⟩)
    · exact hplace ▸ List.suffix_refl _
    · exact (List.suffix_cons i site.path).trans hbelow

theorem records_componentsFirst {type : Owner} (enclosing : List Site) (site : Site)
    {members : List Declaration} {next : Collector Unit} {state : Collected}
    (hnamed : state.Named) (hknown : state.Knows type)
    (hnext : ∀ middle : Collected, middle.Named → middle.Knows type →
      middle.Records unit.unit
        (fun place => ∃ i body, site.node.children[i]? = some body ∧ body.role = some .body ∧
          ((0 + i) :: site.path) <:+ place)
        members (next.run middle).2) :
    state.Records unit.unit (fun place => ∃ i, (i :: site.path) <:+ place)
      (Declaration.ofComponents enclosing site ++ members)
      ((declareComponents unit type site >>= fun _ => next).run state).2 := by
  have hcomponents : state.Records unit.unit _ _
      ((declareComponents unit type site).run state).2 :=
    records_declareComponents enclosing site hnamed
  have hrest := hnext _ hcomponents.named (hcomponents.later.knows hknown)
  refine (hcomponents.append hrest ?_).mono ?_
  -- The list of components and the body are children in different roles.
  · rintro declaration hdeclaration ⟨j, body, hbody, hrole', hbelow⟩
    rcases Declaration.under_of_mem_ofComponents hdeclaration with
      ⟨i, list, hlist, hrole, hunder⟩
    have hsame := Path.eq_of_cons_suffix (hunder _ declaration.site_mem_recorded) hbelow
    rw [hsame, Nat.zero_add] at hlist
    have hnode : list = body := Option.some.inj (hlist.symm.trans hbody)
    rw [hnode, hrole'] at hrole
    cases hrole
  · rintro place (⟨i, _, _, _, hbelow⟩ | ⟨i, _, _, _, hbelow⟩)
    · exact ⟨i, hbelow⟩
    · exact ⟨0 + i, hbelow⟩

mutual

theorem records_declareNode (outer : Option Owner) (enclosing : List Site) (path : Path)
    (node : Node) {state : Collected} (hsides : outer = none ↔ enclosing = [])
    (hnamed : state.Named) (houter : ∀ around, outer = some around → state.Knows around) :
    state.Records unit.unit (path <:+ ·) (Declaration.inNode enclosing path node)
      ((declareNode unit outer path node).run state).2 := by
  cases node with
  | mk kind named role line column offset length text children =>
      rw [declareNode.eq_def, Declaration.inNode.eq_def]
      dsimp only
      by_cases hkind : kind.isTypeDeclaration = true
      · rw [if_pos hkind, if_pos hkind]
        cases hname : Site.child? _ .name with
        | none => exact Records.nil _ hnamed
        | some nameSite =>
            refine records_withinType ⟨path, _⟩ hnamed houter ?_
            intro type middle hmiddle hknown
            let site : Site :=
              ⟨path, ⟨kind, named, role, line, column, offset, length, text, children⟩⟩
            have hbody : ∀ before : Collected, before.Named → before.Knows type →
                before.Records unit.unit
                  (fun place => ∃ i body, children[i]? = some body ∧ body.role = some .body ∧
                    ((0 + i) :: path) <:+ place)
                  (Declaration.inBody (site :: enclosing) path 0 children)
                  ((do
                    declareBody unit type path 0 children
                    finishType unit type kind).run before).2 := by
              intro before hbefore hknows
              exact (records_declareBody type site enclosing path 0 children hbefore
                hknows).thenGrows (grows_finishType kind _)
            by_cases hrecord : kind = .recordDeclaration
            · rw [if_pos hrecord, if_pos hrecord]
              exact records_componentsFirst (site :: enclosing) site hmiddle hknown hbody
            · rw [if_neg hrecord, if_neg hrecord, List.nil_append]
              apply (hbody middle hmiddle hknown).mono
              rintro place ⟨i, _, _, _, hbelow⟩
              exact ⟨0 + i, hbelow⟩
      · rw [if_neg hkind, if_neg hkind]
        cases outer with
        | none =>
            rw [hsides.mp rfl]
            exact Records.nil _ hnamed
        | some around =>
            cases enclosing with
            | nil => cases hsides.mpr rfl
            | cons inner rest =>
                cases kind with
                | enumBodyDeclarations =>
                    refine (records_declareNodes (some around) (inner :: rest) path 0 children
                      hsides hnamed houter).mono ?_
                    rintro place ⟨i, _, hbelow⟩
                    exact (List.suffix_cons i path).trans hbelow
                | enumConstant => exact records_declareEnumConstant _ ⟨path, _⟩ hnamed
                | fieldDeclaration | constantDeclaration =>
                    exact records_declareFields _ ⟨path, _⟩ hnamed
                | methodDeclaration | annotationElementDeclaration =>
                    exact records_declareMethod _ ⟨path, _⟩ hnamed
                | constructorDeclaration | compactConstructorDeclaration =>
                    exact records_declareConstructor _ ⟨path, _⟩ hnamed
                | _ => exact Records.nil _ hnamed

theorem records_declareBody (type : Owner) (inner : Site) (enclosing : List Site) (path : Path)
    (index : Nat) (nodes : List Node) {state : Collected} (hnamed : state.Named)
    (hknown : state.Knows type) :
    state.Records unit.unit
      (fun place => ∃ i body, nodes[i]? = some body ∧ body.role = some .body ∧
        ((index + i) :: path) <:+ place)
      (Declaration.inBody (inner :: enclosing) path index nodes)
      ((declareBody unit type path index nodes).run state).2 := by
  cases nodes with
  | nil =>
      rw [declareBody, Declaration.inBody]
      exact Records.nil _ hnamed
  | cons node rest =>
      cases node with
      | mk kind named role line column offset length text members =>
          rw [declareBody, Declaration.inBody]
          by_cases hrole : role = some .body
          · rw [if_pos hrole, if_pos hrole]
            have hmembers := records_declareNodes (some type) (inner :: enclosing) (index :: path) 0
              members (by simp) hnamed fun around haround => Option.some.inj haround ▸ hknown
            apply hmembers.mono
            rintro place ⟨i, _, hbelow⟩
            exact ⟨0, _, rfl, hrole, (List.suffix_cons i _).trans hbelow⟩
          · rw [if_neg hrole, if_neg hrole]
            apply (records_declareBody type inner enclosing path (index + 1) rest hnamed
              hknown).mono
            rintro place ⟨i, body, hbody, hrole', hbelow⟩
            refine ⟨i + 1, body, hbody, hrole', ?_⟩
            rwa [Nat.add_assoc, Nat.add_comm 1 i] at hbelow

theorem records_declareNodes (outer : Option Owner) (enclosing : List Site) (path : Path)
    (index : Nat) (nodes : List Node) {state : Collected} (hsides : outer = none ↔ enclosing = [])
    (hnamed : state.Named) (houter : ∀ around, outer = some around → state.Knows around) :
    state.Records unit.unit (fun place => ∃ i, index ≤ i ∧ (i :: path) <:+ place)
      (Declaration.inNodes enclosing path index nodes)
      ((declareNodes unit outer path index nodes).run state).2 := by
  cases nodes with
  | nil =>
      rw [declareNodes, Declaration.inNodes]
      exact Records.nil _ hnamed
  | cons node rest =>
      rw [declareNodes, Declaration.inNodes]
      by_cases hcounts : node.counts = true
      · simp only [if_pos hcounts]
        have hhere := records_declareNode outer enclosing (index :: path) node hsides hnamed houter
        have hrest := records_declareNodes outer enclosing path (index + 1) rest hsides hhere.named
          fun around haround => hhere.later.knows (houter around haround)
        refine (hhere.append hrest ?_).mono ?_
        · rintro declaration hdeclaration ⟨i, hi, hbelow⟩
          have hunder := Declaration.under_of_mem_inNode node hdeclaration _
            declaration.site_mem_recorded
          have hsame := Path.eq_of_cons_suffix hunder hbelow
          omega
        · rintro place (hplace | ⟨i, hi, hbelow⟩)
          · exact ⟨index, Nat.le_refl _, hplace⟩
          · exact ⟨i, Nat.le_of_succ_le hi, hbelow⟩
      · simp only [if_neg hcounts]
        have hrest := records_declareNodes outer enclosing path (index + 1) rest hsides hnamed
          houter
        apply hrest.mono
        rintro place ⟨i, hi, hbelow⟩
        exact ⟨i, Nat.le_of_succ_le hi, hbelow⟩

end

end Collector

/-!
# Units
-/

def Site.unitNames (root : Site) : UnitNames :=
  (root.namedChildren.filter fun child => child.kind = .importDeclaration).foldl
    Collector.addImport { package := (root.declaredPackage?.map (·.2)).getD "" }

namespace Collector

open Collected

theorem AddsMembers.foldlM {α β : Type} {base : Collected} {touched : Path → Prop}
    {step : β → α → Collector β} (hstep : ∀ value item, AddsMembers base touched (step value item))
    (start : β) (items : List α) : AddsMembers base touched (items.foldlM step start) := by
  induction items generalizing start with
  | nil => exact AddsMembers.pure start
  | cons item rest ih =>
      rw [List.foldlM_cons]
      exact AddsMembers.bind (hstep start item) fun _ _ => ih _

theorem AddsMembers.ensurePackage {base : Collected} {touched : Path → Prop} (name : DottedName) :
    AddsMembers base touched (Collector.ensurePackage name) := by
  refine AddsMembers.bind (AddsMembers.foldlM ?_ none name) fun _ _ => AddsMembers.pure _
  intro outer segment
  refine AddsMembers.bind (fun _ hgrows => hgrows) fun before _ => ?_
  split
  · exact AddsMembers.pure _
  · apply AddsMembers.bind (AddsMembers.insertSymbol rfl)
    intro _ _
    refine AddsMembers.andThen (fun _ hgrows => ?_) (AddsMembers.pure _)
    exact { hgrows with }

theorem AddsMembers.openUnit {base : Collected} {touched : Path → Prop} (number : Nat)
    (root : Node) : AddsMembers base touched (Collector.openUnit number root) := by
  unfold Collector.openUnit declarePackage
  split
  · exact AddsMembers.pure _
  · split
    · exact AddsMembers.pure _
    · apply AddsMembers.bind (AddsMembers.ensurePackage _)
      intro _ _
      split
      · exact AddsMembers.pure _
      · exact AddsMembers.andThen (AddsMembers.queueAnnotations _ _ _ _) (AddsMembers.pure _)

theorem openUnit_fst (number : Nat) (root : Node) (state : Collected) :
    ((openUnit number root).run state).1.unit = number ∧
      ((openUnit number root).run state).1.package =
        ((Site.mk [number] root).declaredPackage?.map (·.2)).getD "" := by
  unfold openUnit declarePackage Site.declaredPackage?
  cases (Site.mk [number] root).namedChildren.find? fun child =>
      child.kind = .packageDeclaration with
  | none => exact ⟨rfl, rfl⟩
  | some site =>
      dsimp only
      rw [Option.bind_some]
      cases site.namedChildren.find? fun child => child.kind.isName with
      | none => exact ⟨rfl, rfl⟩
      | some nameSite =>
          dsimp only
          rw [StateT.run_bind]
          generalize (ensurePackage (DottedName.ofText nameSite.text)).run state = outcome
          rcases outcome with ⟨found, after⟩
          cases found <;> exact ⟨rfl, rfl⟩

end Collector

namespace Collected

/-- All units are collected: types are found under their names, the names of every unit are known,
and every declaration is signed. -/
structure Complete (roots : List Node) (state : Collected) : Prop where
  named : state.Named
  names : state.decls.units.toList =
    roots.zipIdx.map fun unit => Site.unitNames ⟨[unit.2], unit.1⟩
  signed : ∀ {number : Nat} {root : Node}, roots[number]? = some root →
    ∀ declaration, declaration ∈ Declaration.inUnit number root → state.Signs number declaration

theorem complete_empty : Complete [] {} where
  named := {
    byName := fun h => by simp at h
    listed := fun h => by simp [SymbolTable.get?] at h
    inPackage := fun h => by simp [Declarations.packageType?] at h
    inType := fun h => by simp at h }
  names := rfl
  signed := fun h => by simp at h

theorem Complete.declareUnit {roots : List Node} {state : Collected} (h : Complete roots state)
    (root : Node) :
    Complete (roots ++ [root]) ((Collector.declareUnit roots.length root).run state).2 := by
  rw [Collector.declareUnit_eq, StateT.run_bind]
  have hopened := Collector.AddsMembers.openUnit roots.length root state
    (Grows.refl (fun _ => False) state)
  have hunit := Collector.openUnit_fst roots.length root state
  generalize (Collector.openUnit roots.length root).run state = outcome at hopened hunit ⊢
  rcases outcome with ⟨unit, opened⟩
  rcases hunit with ⟨hnumber, hpackage⟩
  let names := ((Site.mk [roots.length] root).namedChildren.filter fun child =>
    child.kind = .importDeclaration).foldl Collector.addImport { package := unit.package }
  let pushed : Collected :=
    { opened with decls := { opened.decls with units := opened.decls.units.push names } }
  have hpushed : pushed.Named := { hopened.named h.named with }
  have hnodes : pushed.Records unit.unit
      (fun place => ∃ i, 0 ≤ i ∧ (i :: [roots.length]) <:+ place)
      (Declaration.inUnit roots.length root)
      ((Collector.declareNodes unit none [roots.length] 0 root.children).run pushed).2 :=
    Collector.records_declareNodes none [] [roots.length] 0 root.children (by simp) hpushed
      fun _ hnone => by cases hnone
  refine ⟨hnodes.named, ?_, ?_⟩
  · change (((Collector.declareNodes unit none [roots.length] 0 root.children).run
      pushed).2.decls.units).toList = _
    have hlast : names = Site.unitNames ⟨[roots.length], root⟩ := by
      rw [Site.unitNames, ← hpackage]
    rw [hnodes.later.names, Array.toList_push, hopened.names, h.names, hlast, List.zipIdx_append,
      List.map_append]
    simp
  · intro number tree htree declaration hdeclaration
    by_cases hlt : number < roots.length
    · rw [List.getElem?_append_left hlt] at htree
      have hbefore := hopened.toLater.signs (h.signed htree declaration hdeclaration) not_false
      have hkept : pushed.Signs number declaration := ⟨hbefore.type, hbefore.member⟩
      refine hnodes.later.signs hkept ?_
      rintro ⟨i, _, hbelow⟩
      have hunder := Declaration.under_of_mem_inUnit hdeclaration _ declaration.site_mem_recorded
      have hother := (List.suffix_cons i [roots.length]).trans hbelow
      exact Nat.ne_of_lt hlt (Path.eq_of_cons_suffix hunder hother)
    · have hlength := (List.getElem?_eq_some_iff.mp htree).1
      rw [List.length_append, List.length_singleton] at hlength
      have heq : number = roots.length := by omega
      rw [heq, List.getElem?_concat_length] at htree
      cases htree
      rw [heq] at hdeclaration ⊢
      have hsigned := hnodes.signed declaration hdeclaration
      rwa [hnumber] at hsigned

theorem ofUnits_induction {motive : List Node → Collected → Prop} (hempty : motive [] {})
    (hstep : ∀ before state root, motive before state →
      motive (before ++ [root]) ((Collector.declareUnit before.length root).run state).2)
    (roots : List Node) : motive roots (ofUnits roots) := by
  have hfold : ∀ (rest before : List Node) (state : Collected), motive before state →
      motive (before ++ rest) ((rest.zipIdx before.length).foldl
        (fun state unit => ((Collector.declareUnit unit.2 unit.1).run state).2) state) := by
    intro rest
    induction rest with
    | nil =>
        intro before state hstate
        rw [List.append_nil]
        exact hstate
    | cons root rest ih =>
        intro before state hstate
        have hnext := ih (before ++ [root]) _ (hstep before state root hstate)
        rw [List.append_assoc, List.length_append] at hnext
        exact hnext
  exact hfold roots [] {} hempty

theorem complete_ofUnits (roots : List Node) : Complete roots (ofUnits roots) :=
  ofUnits_induction complete_empty (fun _ _ root h => h.declareUnit root) roots

end Collected

/-!
# Programs
-/

namespace Program

variable (units : List SourceUnit) (history : List Nat)

theorem complete_collected : (collected units).Complete (units.map (·.root)) :=
  Collected.complete_ofUnits _

theorem relinks_after :
    (collected units).decls.Relinks ((ofUnits units).after history).decls := by
  rw [decls_after]
  exact (Declarations.relinks_linkSupertypes _).trans
    ((Declarations.relinks_linkSupertypes _).trans (alike_ofUnits units).toRelinks)

theorem names_after {number : Nat} {source : SourceUnit} (hsource : units[number]? = some source) :
    ((ofUnits units).after history).decls.units[number]? =
      some (Site.unitNames ⟨[number], source.root⟩) := by
  rw [(relinks_after units history).units, ← Array.getElem?_toList,
    (complete_collected units).names, List.getElem?_map, List.getElem?_zipIdx,
    root_of_source hsource]
  simp

theorem named_after :
    ((ofUnits units).after history).decls.Named ((ofUnits units).after history).table := by
  have hnamed := (complete_collected units).named
  have hlinks := relinks_after units history
  constructor
  · intro name id hid
    rw [hlinks.typesByName] at hid
    rcases hnamed.byName hid with ⟨symbol, hsymbol, hrest⟩
    exact ⟨_, get?_after units history hsymbol, hrest⟩
  · intro id symbol hsymbol hkind
    rw [hlinks.typesByName]
    rcases get?_after_cases units history hsymbol with ⟨before, hbefore, heq⟩ | ⟨_, hlocal⟩
    · have hname : symbol.qualifiedName = before.qualifiedName := by rw [heq]; rfl
      rw [hname]
      rw [heq] at hkind
      exact hnamed.listed hbefore hkind
    · have hother : symbol.kind.isType = false := by
        revert hlocal
        generalize symbol.kind = kind
        cases kind <;> decide
      rw [hkind] at hother
      cases hother
  · intro package name id hid
    unfold Declarations.packageType? at hid
    rw [hlinks.packageTypes] at hid
    rcases hnamed.inPackage hid with ⟨symbol, hsymbol, hrest⟩
    exact ⟨_, get?_after units history hsymbol, hrest⟩
  · intro owner id decl name hdecl hid
    have htypes := hlinks.types owner
    rw [hdecl] at htypes
    rcases Option.map_eq_some_iff.mp htypes.symm with ⟨before, hbefore, hunlinked⟩
    have hmembers := congrArg TypeDecl.memberTypes hunlinked
    change before.memberTypes = decl.memberTypes at hmembers
    rw [← hmembers] at hid
    rcases hnamed.inType hbefore hid with ⟨around, symbol, haround, hsymbol, hrest⟩
    exact ⟨_, _, get?_after units history haround, get?_after units history hsymbol, hrest⟩

end Program
end RestrictedApi
