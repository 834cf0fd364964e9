import RestrictedApi.Proofs.Attached
import RestrictedApi.Proofs.Edited.Linking
import RestrictedApi.Proofs.Edited.Sites

/-!
# Declarations of edited trees

Nothing is declared by a node that can be left out.  So the edited trees declare the same as the
trees themselves, and the two differ only in the paths of the declaring sites.
-/

namespace RestrictedApi

/-- What was collected from the edited trees beside what was collected from the trees. -/
structure Collected.Alike (t : Twinning) (state twin : Collected) : Prop where
  table : twin.table = state.table
  decls : twin.decls.withSites ∅ = state.decls.withSites ∅
  sites : ∀ {site siteTwin}, t.twins site siteTwin →
    twin.decls.sites[siteTwin.path]? = state.decls.sites[site.path]?

def Twinning.passes (t : Twinning) : Comparison Collected where
  alike := Collected.Alike t
  live _ := True

def Twinning.Collects {α : Type} (t : Twinning) (step : Site → Collector α) : Prop :=
  ∀ ⦃site twin⦄, t.twins site twin → t.passes.Steps (Maps id) (step site) (step twin)

namespace Twinning.Collects

variable {t : Twinning} {α : Type}

/-!
# Steps
-/

theorem bind_get {next nextTwin : Collected → Collector α}
    (hnext : ∀ {state stateTwin : Collected},
      stateTwin.decls.withSites ∅ = state.decls.withSites ∅ →
      t.passes.Steps (Maps id) (next state) (nextTwin stateTwin)) :
    t.passes.Steps (Maps id) (get >>= next) (get >>= nextTwin) :=
  .bind_get (fun _ _ _ => trivial) fun hstate => hnext hstate.decls

theorem insertSymbol (symbol : Symbol) : t.Collects fun _ => Collector.insertSymbol symbol := by
  refine fun _ _ _ => ⟨fun _ _ => trivial, fun hstate _ => ?_⟩
  exact ⟨congrArg SymbolTable.size hstate.table,
    congrArg (SymbolTable.insert · symbol) hstate.table, hstate.decls, hstate.sites⟩

theorem modifyDecls {change : Declarations → Declarations}
    (hchange : ∀ decls sites, change (decls.withSites sites) = (change decls).withSites sites) :
    t.Collects fun _ => Collector.modifyDecls change := by
  have hsites : ∀ decls, (change decls).sites = decls.sites := by
    intro decls
    have hself := hchange decls decls.sites
    rw [Declarations.withSites_self] at hself
    rw [hself, Declarations.withSites_sites]
  refine fun _ _ _ => ⟨fun _ _ => trivial, fun {state stateTwin} hstate _ => ?_⟩
  refine ⟨rfl, hstate.table, ?_, fun {site siteTwin} htwins => ?_⟩
  · change (change stateTwin.decls).withSites ∅ = (change state.decls).withSites ∅
    rw [← hchange, ← hchange, hstate.decls]
  · change (change stateTwin.decls).sites[siteTwin.path]? = (change state.decls).sites[site.path]?
    rw [hsites, hsites, hstate.sites htwins]

theorem recordSite (id : SymbolId) : t.Collects fun site => Collector.recordSite site id := by
  refine fun site twin h => ⟨fun _ _ => trivial, fun {state stateTwin} hstate _ => ?_⟩
  refine ⟨rfl, hstate.table, hstate.decls, fun {other otherTwin} hother => ?_⟩
  change (stateTwin.decls.sites.insert twin.path id)[otherTwin.path]? =
    (state.decls.sites.insert site.path id)[other.path]?
  rw [Std.TreeMap.getElem?_insert, Std.TreeMap.getElem?_insert, hstate.sites hother]
  simp only [Std.LawfulEqCmp.compare_eq_iff_eq, t.path h hother]

theorem recordMember (id : SymbolId) (member : MemberDecl) :
    t.Collects fun _ => Collector.recordMember id member :=
  modifyDecls fun _ _ => rfl

theorem modifyOwner (owner : Owner) (change : TypeDecl → TypeDecl) :
    t.Collects fun _ => Collector.modifyOwner owner change :=
  modifyDecls fun _ _ => rfl

/-!
# Packages and imports
-/

theorem queueAnnotations (unit : Nat) (target : SymbolId) (context : Option SymbolId) :
    t.Collects fun site => Collector.queueAnnotations unit site target context := by
  intro site twin h
  simp only [Collector.queueAnnotations,
    map_eq_of_forall₂ h.annotations Twinning.twins.annotationName_eq]
  exact modifyDecls (fun _ _ => rfl) h

theorem ensurePackage (name : DottedName) :
    t.Collects fun _ => Collector.ensurePackage name := by
  intro site twin h
  refine (Comparison.Steps.foldlM_all (f := id) (List.forall₂_same.mpr fun _ _ => rfl) ?_
    none).bind fun _ => .pure _
  rintro segment _ rfl outer
  refine bind_get fun {state stateTwin} hstate => ?_
  have hpackage : stateTwin.decls.package? = state.decls.package? :=
    (congrArg Declarations.package? hstate :)
  simp only [hpackage, id_eq]
  cases state.decls.package? _ with
  | some id => exact .pure _
  | none =>
      refine (insertSymbol _ h).bind fun id => ?_
      exact (modifyDecls (fun _ _ => rfl) h).bind fun _ => .pure _

theorem declarePackage (unit : Nat) : t.Collects (Collector.declarePackage unit) := by
  intro site twin h
  unfold Collector.declarePackage
  refine (h.find_kind NodeKind.isName rfl rfl).casesOn (fun hname => ?_) (.pure _)
  dsimp only
  rw [hname.text_eq]
  refine (ensurePackage _ h).bind fun symbol => ?_
  cases symbol with
  | none => exact .pure _
  | some id => exact (queueAnnotations unit id none h).bind fun _ => .pure _

end Twinning.Collects

namespace Twinning.twins

variable {t : Twinning} {site twin : Site}

theorem importParts_eq (h : t.twins site twin) :
    Collector.importParts twin = Collector.importParts site := by
  have hnames := (t.children h).filter_forall₂
    (fun hchild => hchild.read_kind NodeKind.isName rfl)
    fun homits => homits.test NodeKind.isName rfl rfl
  have hany : ∀ kind : NodeKind, kind.isUnknown = false →
      (twin.children.any fun child => child.kind = kind) =
        site.children.any fun child => child.kind = kind := by
    intro kind hkind
    refine (t.children h).any_eq (fun hchild => ?_) fun homits => ?_
    · simp only [hchild.kind_iff kind hkind]
    · exact decide_eq_false (NodeKind.ne_of_isUnknown homits.idle.kind hkind)
  rw [Collector.importParts, Collector.importParts, hany .staticKeyword rfl, hany .asterisk rfl,
    map_eq_of_rel (getLast?_of_forall₂ hnames) fun hchild => by rw [hchild.text_eq]]

theorem foldl_addImport_eq {imports importTwins : List Site}
    (h : List.Forall₂ t.twins imports importTwins) (names : UnitNames) :
    importTwins.foldl Collector.addImport names = imports.foldl Collector.addImport names := by
  induction h generalizing names with
  | nil => rfl
  | cons himport _ ih =>
      rw [List.foldl_cons, List.foldl_cons, ih, Collector.addImport, Collector.addImport,
        himport.importParts_eq]

theorem declaredType?_eq (h : t.twins site twin) :
    Collector.declaredType? twin = Collector.declaredType? site := by
  unfold Collector.declaredType?
  exact (h.child? .type).casesOn typeName_eq rfl

theorem superclassName?_eq (h : t.twins site twin) :
    Collector.superclassName? twin = Collector.superclassName? site := by
  have hclauses := h.filter_kind (fun kind => kind = .superclassClause) rfl rfl
  simp only [Collector.superclassName?]
  refine (getLast?_of_forall₂ hclauses).casesOn (fun hclause => ?_) rfl
  exact hclause.namedChildren.findSome?_eq typeName_eq fun homits => homits.idle.typeName_eq_none

theorem interfaceNames_eq (h : t.twins site twin) :
    Collector.interfaceNames twin = Collector.interfaceNames site := by
  have hclauses := h.filter_kind
    (fun kind => kind = .superInterfaces || kind = .extendsInterfaces) rfl rfl
  rw [Collector.interfaceNames, Collector.interfaceNames, List.flatMap_def, List.flatMap_def,
    map_eq_of_forall₂ hclauses typeList_eq]

end Twinning.twins

namespace Twinning.Collects

variable {t : Twinning} (unit : CollectingUnit) (owner : Owner)

/-!
# Members
-/

theorem declareTypeParameters (target : SymbolId) :
    t.Collects fun site => Collector.declareTypeParameters unit site target := by
  intro site twin h
  unfold Collector.declareTypeParameters
  refine (Comparison.Steps.mapM (Thinned.of_forall₂ (?_ : List.Forall₂ t.twins _ _))
    (fun hname => ?_) False.elim).imp fun hvalues =>
      Eq.symm (List.forall₂_eq_eq_eq ▸ hvalues.forall₂ id)
  · refine (h.child? .typeParameters).casesOn (fun hparameters => ?_) .nil
    exact (Thinned.of_forall₂ (hparameters.filter_kind (fun kind => kind = .typeParameter)
      rfl rfl)).filterMap_forall₂ (fun hparameter => hparameter.childOfKind? _ rfl) False.elim
  · rw [hname.text_eq]
    exact (insertSymbol _ h).bind fun _ => .pure_rel rfl

theorem declareMember (name : String) (kind : SymbolKind) :
    t.Collects fun site => Collector.declareMember unit site name kind owner := by
  intro site twin h
  refine (insertSymbol _ h).bind fun id => ?_
  refine (recordSite id h).bind fun _ => ?_
  exact (queueAnnotations unit.unit id _ h).bind fun _ => .pure _

theorem declareEnumConstant : t.Collects (Collector.declareEnumConstant unit owner) := by
  intro site twin h
  unfold Collector.declareEnumConstant
  refine (h.child? .name).casesOn (fun hname => ?_) (.pure _)
  dsimp only
  rw [hname.text_eq]
  refine (declareMember unit owner _ .enumConstant h).bind fun id => ?_
  exact (recordMember id _ h).bind fun _ => modifyOwner owner _ h

theorem declareFields : t.Collects (Collector.declareFields unit owner) := by
  intro site twin h
  refine .forM_all (h.childrenIn .declarator) fun hdeclarator => ?_
  refine (hdeclarator.child? .name).casesOn (fun hname => ?_) (.pure _)
  dsimp only
  rw [hname.text_eq, h.declaredType?_eq]
  refine (declareMember unit owner _ .field h).bind fun id => ?_
  refine (recordSite id hdeclarator).bind fun _ => ?_
  exact (recordMember id _ h).bind fun _ => modifyOwner owner _ h

theorem declareMethod : t.Collects (Collector.declareMethod unit owner) := by
  intro site twin h
  unfold Collector.declareMethod
  rw [h.declaredType?_eq, map_eq_of_rel (h.child? .parameters) Twinning.twins.parameterShape_eq]
  refine (h.child? .name).casesOn (fun hname => ?_) (.pure _)
  dsimp only
  rw [hname.text_eq]
  refine (declareMember unit owner _ .method h).bind fun id => ?_
  refine (declareTypeParameters unit id h).bind fun typeParameters => ?_
  exact (recordMember id _ h).bind fun _ => modifyOwner owner _ h

theorem componentsOf : t.Collects fun _ => Collector.componentsOf owner := by
  refine fun site twin h => bind_get fun {state stateTwin} hstate => ?_
  have htypes : stateTwin.decls.types = state.decls.types :=
    (congrArg Declarations.types hstate :)
  rw [htypes]
  exact .pure _

theorem declareConstructor : t.Collects (Collector.declareConstructor unit owner) := by
  intro site twin h
  unfold Collector.declareConstructor
  rw [map_eq_of_rel (h.child? .parameters) Twinning.twins.parameterShape_eq]
  refine (declareMember unit owner _ .constructor h).bind fun id => ?_
  refine (componentsOf owner h).bind fun components => ?_
  refine (declareTypeParameters unit id h).bind fun typeParameters => ?_
  exact (recordMember id _ h).bind fun _ => modifyOwner owner _ h

theorem declareComponent : t.Collects (Collector.declareComponent unit owner) := by
  intro site twin h
  unfold Collector.declareComponent
  refine (h.child? .name).casesOn (fun hname => ?_) (.pure _)
  dsimp only
  rw [hname.text_eq, h.declaredType?_eq]
  refine (declareMember unit owner _ .field h).bind fun field => ?_
  refine (insertSymbol _ h).bind fun accessor => ?_
  refine (recordMember field _ h).bind fun _ => ?_
  exact (recordMember accessor _ h).bind fun _ => modifyOwner owner _ h

theorem declareComponents : t.Collects (Collector.declareComponents unit owner) := by
  intro site twin h
  unfold Collector.declareComponents
  refine (h.child? .parameters).casesOn (fun hparameters => ?_) (.pure _)
  refine .forM hparameters.namedChildren (declareComponent unit owner ·) fun homits => ?_
  rw [Collector.declareComponent, homits.idle.child?_eq_none]
  exact .pure _

theorem declareDefaultConstructor :
    t.Collects fun _ => Collector.declareDefaultConstructor unit owner := by
  refine fun site twin h => bind_get fun {state stateTwin} hstate => ?_
  have hconstructors : stateTwin.decls.constructors = state.decls.constructors :=
    (congrArg Declarations.constructors hstate :)
  rw [hconstructors]
  split
  · refine (componentsOf owner h).bind fun arity => ?_
    refine (insertSymbol _ h).bind fun id => ?_
    exact (recordMember id _ h).bind fun _ => modifyOwner owner _ h
  · exact .pure _

/-!
# Types
-/

theorem declareType (outer : Option Owner) (name : String) :
    t.Collects fun site => Collector.declareType unit outer site name := by
  intro site twin h
  simp only [Collector.declareType, h.read_kind Collector.typeKind rfl, h.superclassName?_eq,
    h.interfaceNames_eq]
  refine (insertSymbol _ h).bind fun id => ?_
  refine (recordSite id h).bind fun _ => ?_
  refine (queueAnnotations unit.unit id _ h).bind fun _ => ?_
  refine (declareTypeParameters unit id h).bind fun typeParameters => ?_
  cases outer with
  | some owner =>
      refine (modifyOwner owner _ h).bind fun _ => ?_
      exact (modifyDecls (fun _ _ => rfl) h).bind fun _ => .pure _
  | none =>
      refine (modifyDecls (fun _ _ => rfl) h).bind fun _ => ?_
      exact (modifyDecls (fun _ _ => rfl) h).bind fun _ => .pure _

theorem finishType (kind : NodeKind) :
    t.Collects fun _ => Collector.finishType unit owner kind := by
  intro site twin h
  unfold Collector.finishType
  split
  · exact declareDefaultConstructor unit owner h
  · exact .pure _

end Twinning.Collects

/-!
# Bodies

The pass over a body is one over the named children that stand in it.
-/

namespace Collector

def declareChildren (unit : CollectingUnit) (outer : Option Owner) (site : Site) : Collector Unit :=
  site.namedChildren.forM fun child => declareNode unit outer child.path child.node

def declareChildren? (unit : CollectingUnit) (owner : Owner) : Option Site → Collector Unit
  | none => pure ()
  | some body => declareChildren unit (some owner) body

theorem declareNodes_eq (unit : CollectingUnit) (outer : Option Owner) (path : Path) (index : Nat)
    (nodes : List Node) :
    declareNodes unit outer path index nodes =
      ((Site.number path index nodes).filter fun child => child.node.counts).forM
        fun child => declareNode unit outer child.path child.node := by
  induction nodes generalizing index with
  | nil =>
      rw [declareNodes]
      rfl
  | cons node rest ih =>
      rw [declareNodes, Site.number, ih]
      cases hcounts : node.counts with
      | true =>
          rw [List.filter_cons_of_pos (by exact hcounts)]
          rfl
      | false =>
          rw [List.filter_cons_of_neg (by simp [hcounts])]
          rfl

theorem declareBody_eq (unit : CollectingUnit) (owner : Owner) (path : Path) (index : Nat)
    (nodes : List Node) :
    declareBody unit owner path index nodes =
      declareChildren? unit owner ((Site.number path index nodes).find?
        fun child => child.node.role = some .body) := by
  induction nodes generalizing index with
  | nil =>
      rw [declareBody]
      rfl
  | cons node rest ih =>
      cases node with
      | mk kind named role line column offset length text members =>
          rw [declareBody, Site.number, List.find?_cons, ih, declareNodes_eq]
          by_cases hrole : role = some .body
          · simp only [hrole, if_true, decide_true]
            rfl
          · simp only [hrole, if_false, decide_false]

theorem declareNode_eq (unit : CollectingUnit) (outer : Option Owner) (site : Site) :
    declareNode unit outer site.path site.node =
      if site.kind.isTypeDeclaration then
        match site.child? .name with
        | none => pure ()
        | some nameSite => do
            let owner ← declareType unit outer site nameSite.text
            if site.kind = .recordDeclaration then declareComponents unit owner site
            declareChildren? unit owner (site.child? .body)
            finishType unit owner site.kind
      else
        match outer, site.kind with
        | none, _ => pure ()
        | some _, .enumBodyDeclarations => declareChildren unit outer site
        | some owner, .enumConstant => declareEnumConstant unit owner site
        | some owner, .fieldDeclaration => declareFields unit owner site
        | some owner, .constantDeclaration => declareFields unit owner site
        | some owner, .methodDeclaration => declareMethod unit owner site
        | some owner, .annotationElementDeclaration => declareMethod unit owner site
        | some owner, .constructorDeclaration => declareConstructor unit owner site
        | some owner, .compactConstructorDeclaration => declareConstructor unit owner site
        | some _, _ => pure () := by
  rcases site with ⟨path, node⟩
  cases node with
  | mk kind named role line column offset length text children =>
      rw [declareNode.eq_def]
      simp only [declareBody_eq]
      by_cases hkind : kind.isTypeDeclaration = true
      · rw [if_pos hkind, if_pos (by exact hkind)]
        rfl
      · rw [if_neg hkind, if_neg (by exact hkind)]
        cases outer with
        | none => rfl
        | some owner =>
            cases kind with
            | enumBodyDeclarations => exact declareNodes_eq unit (some owner) path 0 children
            | _ => rfl

theorem declareNode_of_error (unit : CollectingUnit) (outer : Option Owner) {site : Site}
    (hkind : site.kind.isUnknown = true) :
    declareNode unit outer site.path site.node = pure () := by
  rw [declareNode_eq]
  refine NodeKind.unknown_elim hkind ?_ ?_ <;> cases outer <;> rfl

end Collector

namespace Twinning.Collects

variable {t : Twinning} (unit : CollectingUnit)

theorem declareTree {site twin : Site} (h : t.twins site twin) (outer : Option Owner) :
    t.passes.Steps (Maps id) (Collector.declareNode unit outer site.path site.node)
        (Collector.declareNode unit outer twin.path twin.node) ∧
      t.passes.Steps (Maps id) (Collector.declareChildren unit outer site)
        (Collector.declareChildren unit outer twin) := by
  induction h using Twinning.twins.induct generalizing outer with
  | step site twin h ih =>
      have hmembers : ∀ outer, t.passes.Steps (Maps id) (Collector.declareChildren unit outer site)
          (Collector.declareChildren unit outer twin) := by
        intro outer
        have hchildren := h.namedChildren.imp_mem (fun hchild htwins =>
          And.intro (Site.mem_children_of_mem_namedChildren hchild) htwins) fun _ homits => homits
        refine .forM hchildren (fun hchild => (ih hchild.1 hchild.2 outer).1) fun homits => ?_
        rw [Collector.declareNode_of_error unit outer homits.idle.kind]
        exact .pure _
      refine ⟨?_, hmembers outer⟩
      rw [Collector.declareNode_eq, Collector.declareNode_eq, h.kind_eq]
      refine t.edit.kind_elim site.kind ?_ (by cases outer <;> exact .pure _)
      split
      · refine (h.child? .name).casesOn (fun hname => ?_) (.pure _)
        dsimp only
        rw [hname.text_eq]
        refine (declareType unit outer _ h).bind fun owner => ?_
        have hbody : t.passes.Steps (Maps id)
            (Collector.declareChildren? unit owner (site.child? .body))
            (Collector.declareChildren? unit owner (twin.child? .body)) :=
          (h.childOf? .body).casesOn (fun hbody => (ih hbody.2.1 hbody.1 (some owner)).2) (.pure _)
        split
        · exact (declareComponents unit owner h).bind fun _ =>
            hbody.bind fun _ => finishType unit owner site.kind h
        · exact hbody.bind fun _ => finishType unit owner site.kind h
      · split
        · exact .pure _
        · exact hmembers _
        · exact declareEnumConstant unit _ h
        · exact declareFields unit _ h
        · exact declareFields unit _ h
        · exact declareMethod unit _ h
        · exact declareMethod unit _ h
        · exact declareConstructor unit _ h
        · exact declareConstructor unit _ h
        · exact .pure _

theorem declareUnit (number : Nat) {root rootTwin : Node}
    (h : t.twins ⟨[number], root⟩ ⟨[number], rootTwin⟩) :
    t.passes.Steps (Maps id) (Collector.declareUnit number root)
      (Collector.declareUnit number rootTwin) := by
  have hopen : t.passes.Steps (Maps id) (Collector.openUnit number root)
      (Collector.openUnit number rootTwin) := by
    unfold Collector.openUnit
    exact (h.find_kind (fun kind => kind = .packageDeclaration) rfl rfl).casesOn
      (declarePackage number ·) (.pure _)
  rw [Collector.declareUnit_eq, Collector.declareUnit_eq]
  refine hopen.bind fun unit => ?_
  dsimp only
  rw [Twinning.twins.foldl_addImport_eq
      (h.filter_kind (fun kind => kind = .importDeclaration) rfl rfl),
    Collector.declareNodes_eq, Collector.declareNodes_eq]
  exact (modifyDecls (fun _ _ => rfl) h).bind fun _ => (declareTree unit h none).2

end Twinning.Collects

/-!
# Programs
-/

namespace Collected

/-- Trees declare the same as the edited trees. -/
theorem alike_ofUnits {t : Twinning} {roots : List Node}
    (hroots : ∀ {number root}, roots[number]? = some root →
      t.twins ⟨[number], root⟩ ⟨[number], root.edited t.edit⟩) :
    (ofUnits roots).Alike t (ofUnits (roots.map (Node.edited t.edit))) := by
  have hfold : ∀ (units : List (Node × Nat)) {state twin : Collected},
      (∀ unit, unit ∈ units → roots[unit.2]? = some unit.1) → state.Alike t twin →
      Collected.Alike t
        (units.foldl (fun state unit => ((Collector.declareUnit unit.2 unit.1).run state).2) state)
        ((units.map (Prod.map (Node.edited t.edit) id)).foldl
          (fun state unit => ((Collector.declareUnit unit.2 unit.1).run state).2) twin) := by
    intro units
    induction units with
    | nil => exact fun _ h => h
    | cons unit rest ih =>
        intro state twin hunits h
        have hunit := hroots (hunits unit List.mem_cons_self)
        rw [List.map_cons, List.foldl_cons, List.foldl_cons]
        exact ih (fun later hlater => hunits later (.tail _ hlater))
          ((Twinning.Collects.declareUnit unit.2 hunit).run h trivial).2
  rw [ofUnits, ofUnits, List.zipIdx_map]
  apply hfold
  · exact fun unit hunit => List.mem_zipIdx_iff_getElem?.mp hunit
  · exact ⟨rfl, rfl, fun _ => rfl⟩

theorem Alike.decls_eq {t : Twinning} {state twin : Collected} (h : state.Alike t twin) :
    twin.decls = state.decls.withSites twin.decls.sites :=
  (congrArg (Declarations.withSites · twin.decls.sites) h.decls :)

theorem Alike.link {t : Twinning} {state twin : Collected} (h : state.Alike t twin) :
    state.link.Alike t twin.link := by
  rcases state with ⟨table, decls⟩
  rcases twin with ⟨_, declsTwin⟩
  cases h.table
  have hlink := link_withSites table decls ∅
  rw [show decls.withSites ∅ = declsTwin.withSites ∅ from h.decls.symm, link_withSites] at hlink
  refine ⟨(congrArg Collected.table hlink :), (congrArg Collected.decls hlink :), ?_⟩
  intro site siteTwin htwins
  rw [sites_link, sites_link, h.sites htwins]

end Collected

end RestrictedApi
