import RestrictedApi.Extraction.Bindings
import RestrictedApi.Proofs.Tour.Expressions

/-!
# Tours over declarations

A declaration tours everything but the name that it declares, and then declares that.  Declarations
of types and methods, loops over a collection and lambdas open a block for it.
-/

namespace RestrictedApi
namespace Tours

variable {unit : WalkedUnit} {shape : Shape} {visit : Visit} {parent : Option Site} {site : Site}

theorem declareName {inImport : Bool} {kind : SymbolKind} {nameSite : Option Site}
    (hdeclares : site.kind.declaresName = true) (hname : site.child? .name = nameSite)
    (hkind : kind.isLocal = true) (type : Option SymbolId) :
    Tours unit shape inImport (.inside site nameSite.toList)
      (Walker.declare unit nameSite kind type) := by
  apply Tours.declare type _ hkind
  intro found hfound
  rw [Site.declaredNames_of_declaresName hdeclares, hname]
  exact Option.mem_toList.mpr hfound

/-!
# Parameters
-/

theorem parameterPart (hvisit : TouringVisit unit shape visit) (hsite : site.Visitable shape parent)
    (skipped : NodeKind → Bool) (type : Option SymbolId) :
    Tours unit shape false (.whole parent site) (Walker.parameterPart visit skipped type site) := by
  unfold Walker.parameterPart
  by_cases hskipped : skipped site.kind = true
  · rw [if_pos hskipped]
    exact Tours.pure type
  · rw [if_neg hskipped]
    by_cases hmodifiers : site.kind = .modifiers
    · rw [if_pos hmodifiers]
      exact Tours.map (Tours.discard (hvisit parent site hsite)) _
    · rw [if_neg hmodifiers]
      by_cases hcatch : site.kind = .catchType
      · rw [if_pos hcatch]
        have hplain : site.kind.isPlain = true := by
          rw [hcatch]
          rfl
        have hnamed := Tours.visitNamed hvisit hsite.grammatical
          (NodeKind.visitsAll_of_isPlain hplain)
        refine Tours.enter (Tours.bind hnamed fun visited =>
          (show Tours unit shape false (.inside site []) _ from ?_)) ?_ hplain hsite.body
        · split
          · exact Tours.pure _
          · exact Tours.pure type
        · rw [List.append_nil]
          exact site.nodup_namedChildren
      · rw [if_neg hcatch]
        exact Tours.map (hvisit parent site hsite) _

def parameterParts (site : Site) : List Site :=
  (site.childrenExcept [site.child? .name]).filter fun part => !Walker.isParameterName part.kind

theorem parameterType_eq (visit : Visit) (site : Site) :
    Walker.parameterType visit site =
      (parameterParts site).foldlM (Walker.parameterPart visit Walker.isParameterName) none := by
  rw [parameterParts, List.foldlM_filter, Walker.parameterType]
  congr 1
  funext type part
  cases hskipped : Walker.isParameterName part.kind with
  | false => rfl
  | true => simp [Walker.parameterPart, hskipped]

theorem parameterType (hvisit : TouringVisit unit shape visit)
    (hparts : ∀ part, part ∈ site.childrenExcept [site.child? .name] → site.MayVisit shape part) :
    Tours unit shape false (.inside site (parameterParts site))
      (Walker.parameterType visit site) := by
  rw [parameterType_eq]
  apply Tours.foldSites
  intro type part hpart
  have hmay := hparts part (List.mem_filter.mp hpart).1
  exact Tours.part hmay
    (Tours.parameterPart hvisit hmay.visitable Walker.isParameterName type)

theorem nodup_parameterParts (site : Site) : (parameterParts site).Nodup :=
  (site.nodup_namedChildren.filter _).filter _

def parameterNameParts (site : Site) : List Site :=
  match site.child? .name with
  | some nameSite => [nameSite]
  | none => (site.childOfKind? .variableDeclarator).toList

theorem nodup_parameterNameParts (site : Site) :
    (parameterParts site ++ parameterNameParts site).Nodup := by
  refine List.Nodup.append (nodup_parameterParts site) ?_ ?_
  · unfold parameterNameParts
    split
    · exact List.nodup_singleton _
    · cases site.childOfKind? .variableDeclarator <;> simp
  · intro other hpart hother
    rcases List.mem_filter.mp hpart with ⟨hkept, hkind⟩
    unfold parameterNameParts at hother
    split at hother
    · rename_i nameSite hname
      rw [List.mem_singleton] at hother
      exact Site.ne_of_mem_childrenExcept hkept (by simp [hname]) hother
    · rw [Site.kind_of_childOfKind? (Option.mem_toList.mp hother)] at hkind
      cases hkind

theorem declareParameter (hsite : site.Grammatical shape parent)
    (hparameter : site.kind.isParameter = true) {kind : SymbolKind} (hkind : kind.isLocal = true)
    (type : Option SymbolId) :
    Tours unit shape false (.inside site (parameterNameParts site))
      (Walker.declare unit (Walker.parameterName? site) kind type) := by
  have hdeclares : site.kind.declaresName = true := by
    simp [NodeKind.declaresName, hparameter]
  unfold parameterNameParts Walker.parameterName?
  cases hname : site.child? .name with
  | some nameSite =>
      exact Tours.declareName hdeclares hname hkind type
  | none =>
      cases hdeclarator : site.childOfKind? .variableDeclarator with
      | none => exact Tours.pure _
      | some declarator =>
          have hvariable := Site.kind_of_childOfKind? hdeclarator
          have hmay := hsite.mayVisit_of_declaresName hdeclares
            (by intro h; rw [h] at hparameter; cases hparameter)
            (Site.mem_children_of_childOfKind? hdeclarator) (by rw [hname]; simp)
          apply Tours.part hmay
          refine Tours.enterNode (Tours.declareName (by rw [hvariable]; rfl) rfl hkind type) ?_
            (by rw [hvariable]; rfl) hmay.visitable.body
          cases declarator.child? .name <;> simp

theorem mayVisit_of_isParameter (hsite : site.Grammatical shape parent)
    (hkind : site.kind.isParameter = true) {part : Site}
    (hpart : part ∈ site.childrenExcept [site.child? .name]) : site.MayVisit shape part := by
  have hdeclares : site.kind.declaresName = true := by
    simp [NodeKind.declaresName, hkind]
  refine hsite.mayVisit_of_mem_childrenExcept hdeclares ?_ List.mem_cons_self hpart
  intro h
  rw [h] at hkind
  cases hkind

theorem opensNothing_of_isParameter {kind : NodeKind} (hkind : kind.isParameter = true) :
    kind.opensNothing = true := by
  revert hkind
  cases kind <;> decide

theorem parameter (hvisit : TouringVisit unit shape visit) (hsite : site.Visitable shape parent)
    (hkind : site.kind.isParameter = true) :
    Tours unit shape false (.whole parent site) (Walker.parameter unit visit site) := by
  have htype := Tours.parameterType hvisit fun _ hpart =>
    mayVisit_of_isParameter hsite.grammatical hkind hpart
  refine Tours.enterNode (Tours.bind htype fun type => ?_) (nodup_parameterNameParts site)
    (opensNothing_of_isParameter hkind) hsite.body
  apply Tours.declareParameter hsite.grammatical hkind
  split <;> rfl

/-!
# Types and members
-/

theorem component (hvisit : TouringVisit unit shape visit) (hsite : site.Visitable shape parent)
    (hkind : site.kind.isParameter = true ∨ site.kind.isPlain = true) :
    Tours unit shape false (.whole parent site) (Walker.parameterType visit site) := by
  have hparts : ∀ part, part ∈ site.childrenExcept [site.child? .name] →
      site.MayVisit shape part := by
    intro part hpart
    rcases hkind with hparameter | hplain
    · exact mayVisit_of_isParameter hsite.grammatical hparameter hpart
    · exact hsite.grammatical.mayVisit_of_visitsAll (NodeKind.visitsAll_of_isPlain hplain)
        (Site.mem_children_of_mem_childrenExcept hpart)
  have hopens : site.kind.opensNothing = true := by
    rcases hkind with hparameter | hplain
    · exact opensNothing_of_isParameter hparameter
    · exact NodeKind.opensNothing_of_isPlain hplain
  exact (Tours.parameterType hvisit hparts).enterNode (nodup_parameterParts site) hopens hsite.body

theorem typeDeclarationPart (hvisit : TouringVisit unit shape visit)
    (hsite : site.Visitable shape parent) :
    Tours unit shape false (.whole parent site) (Walker.typeDeclarationPart visit site) := by
  unfold Walker.typeDeclarationPart
  by_cases hkind : site.kind = .formalParameters
  · rw [if_pos hkind]
    have hplain : site.kind.isPlain = true := by
      rw [hkind]
      rfl
    refine Tours.enter (Tours.forSites fun part hpart => ?_) site.nodup_namedChildren hplain
      hsite.body
    have hmay := hsite.grammatical.mayVisit_of_visitsAll (NodeKind.visitsAll_of_isPlain hplain)
      (Site.mem_children_of_mem_namedChildren hpart)
    apply Tours.part hmay
    apply Tours.discard
    apply Tours.component hvisit hmay.visitable
    have hadmits := hmay.visitable.grammatical.admitsPart
    rw [Site.kind] at hkind
    simpa [Node.admitsPart, hkind, Site.kind] using hadmits
  · rw [if_neg hkind]
    exact Tours.discard (hvisit parent site hsite)

theorem run_enclosingOf (unit : WalkedUnit) (site : Site) (walk : Walk) :
    ((Walker.enclosingOf unit site).run walk).2 = walk := by
  unfold Walker.enclosingOf
  split <;> rfl

theorem typeDeclaration (hvisit : TouringVisit unit shape visit)
    (hsite : site.Visitable shape parent) (hkind : site.kind.isTypeDeclaration = true) :
    Tours unit shape false (.whole parent site) (Walker.typeDeclaration unit visit site) := by
  have hdeclares : site.kind.declaresName = true := by
    simp [NodeKind.declaresName, hkind]
  have hopens : site.kind.opensBlock = true := by
    simp [NodeKind.opensBlock, hkind]
  unfold Walker.typeDeclaration
  apply Tours.bind_read (run_enclosingOf unit site)
  intro enclosing
  apply Tours.underDeclaration
  apply Tours.within
  refine Tours.inBlock (Tours.forSites fun part hpart => ?_) (site.nodup_namedChildren.filter _)
    (Site.opensBlock_of_kind hopens) (by intro h; rw [h] at hkind; cases hkind)
  have hmay := hsite.grammatical.mayVisit_of_mem_childrenExcept hdeclares
    (by intro h; rw [h] at hkind; cases hkind) List.mem_cons_self hpart
  exact Tours.part hmay (Tours.typeDeclarationPart hvisit hmay.visitable)

theorem fieldDeclaration (hvisit : TouringVisit unit shape visit)
    (hsite : site.Visitable shape parent) (hkind : site.kind.isPlain = true) :
    Tours unit shape false (.whole parent site) (Walker.fieldDeclaration visit site) := by
  have hchildren := Tours.visitChildren hvisit hsite.grammatical
    (NodeKind.visitsAll_of_isPlain hkind)
  exact Tours.underDeclaration site
    (hchildren.enter site.nodup_namedChildren hkind hsite.body)

theorem openTypeParameters :
    Tours unit shape false (.inside site []) (Walker.openTypeParameters unit site) := by
  unfold Walker.openTypeParameters
  split
  · rename_i member hmember
    rcases Option.bind_eq_some_iff.mp hmember with ⟨id, _, hdecl⟩
    exact Tours.forM fun _ hparameter walk => Tour.typeParameter hdecl hparameter
  · exact Tours.forM fun nameSite _ walk => Tour.localTypeParameter nameSite.text

theorem methodDeclaration (hvisit : TouringVisit unit shape visit)
    (hsite : site.Visitable shape parent) (hkind : site.kind.isMethod = true) :
    Tours unit shape false (.whole parent site) (Walker.methodDeclaration unit visit site) := by
  have hdeclares : site.kind.declaresName = true := by
    simp [NodeKind.declaresName, hkind]
  have hopens : site.kind.opensBlock = true := by
    simp [NodeKind.opensBlock, hkind]
  apply Tours.underDeclaration
  refine Tours.inBlock (Tours.bind Tours.openTypeParameters fun _ => Tours.visitAll hvisit ?_)
    (site.nodup_namedChildren.filter _) (Site.opensBlock_of_kind hopens)
    (by intro h; rw [h] at hkind; cases hkind)
  intro part hpart
  exact hsite.grammatical.mayVisit_of_mem_childrenExcept hdeclares
    (by intro h; rw [h] at hkind; cases hkind) List.mem_cons_self hpart

theorem mayVisit_of_enumConstant (hsite : site.Grammatical shape parent)
    (hkind : site.kind = .enumConstant) {part : Site}
    (hpart : part ∈ site.childrenExcept [site.child? .name, site.child? .body]) :
    site.MayVisit shape part := by
  have hmem := Site.mem_children_of_mem_childrenExcept hpart
  have hbelow := hsite.below hmem
  refine ⟨hmem, ?_, hbelow, hbelow.ne_inferredParameters (Or.inl (by rw [hkind]; decide)), ?_⟩
  · rw [Site.declaredNames_of_declaresName (by rw [hkind]; rfl), Option.mem_toList]
    intro _ hname
    exact Site.ne_of_mem_childrenExcept hpart (hname ▸ List.mem_cons_self) rfl
  · apply Site.isAnonymousBody_eq_false hmem
    intro body _ hbody
    simp only [Site.anonymousBody?, hkind] at hbody
    exact Site.ne_of_mem_childrenExcept hpart (by simp [hbody])

theorem constantBody (hvisit : TouringVisit unit shape visit)
    (hsite : site.Grammatical shape parent) (hkind : site.kind = .enumConstant) :
    Tours unit shape false (.inside site (site.child? .body).toList) (match site.child? .body with
      | none => Pure.pure ()
      | some body => do Walker.anonymousBody visit (← get).thisType? body) := by
  cases hfound : site.child? .body with
  | none => exact Tours.pure _
  | some body =>
      have hmem := Site.mem_children_of_child? hfound
      have hrole := Site.role_of_child? hfound
      have hplain : body.kind.isPlain = true := by
        have hadmits := (hsite.below hmem).admitsPart
        rw [Site.kind] at hkind
        simpa [Node.admitsPart, hkind, hrole, Site.kind] using hadmits
      have hundeclared : body ∉ site.declaredNames := by
        rw [Site.declaredNames_of_declaresName (by rw [hkind]; rfl), Option.mem_toList]
        intro hname
        have hroles := hrole.symm.trans (Site.role_of_child? hname)
        cases hroles
      have hbody : body.isAnonymousBody (some site) = true := by
        apply Site.isAnonymousBody_of_isAt
        simp only [Site.anonymousBody?, hkind, hfound]
      apply Tours.bind_get
      intro walk
      exact Tours.child hmem hundeclared
        (Tours.anonymousBody hvisit (hsite.below hmem) hplain hbody walk.thisType?) walk

theorem enumConstant (hvisit : TouringVisit unit shape visit) (hsite : site.Visitable shape parent)
    (hkind : site.kind = .enumConstant) :
    Tours unit shape false (.whole parent site) (Walker.enumConstant visit site) := by
  apply Tours.underDeclaration
  refine Tours.enterNode (Tours.bind (Tours.visitAll hvisit fun _ hpart =>
      mayVisit_of_enumConstant hsite.grammatical hkind hpart)
    fun _ => Tours.constantBody hvisit hsite.grammatical hkind) ?_ (by rw [hkind]; rfl) hsite.body
  apply Site.nodup_childrenExcept_append
  · cases site.child? .body <;> simp
  · intro other hother
    rw [Option.mem_toList] at hother
    simp [hother]

/-!
# Variables
-/

theorem localVariable (hvisit : TouringVisit unit shape visit) (hsite : site.Visitable shape parent)
    (hkind : site.kind = .variableDeclarator) (inferred : Bool) (declared : Option SymbolId) :
    Tours unit shape false (.whole parent site)
      (Walker.localVariable unit visit inferred declared site) := by
  have hdeclares : site.kind.declaresName = true := by
    rw [hkind]
    rfl
  refine Tours.enterNode (Tours.bind (Tours.visit? hvisit fun value hvalue => ?_) fun value =>
    Tours.declareName hdeclares rfl rfl _) (site.nodup_pair (by decide)) (by rw [hkind]; rfl)
    hsite.body
  exact hsite.grammatical.mayVisit_of_ne_name hdeclares (by rw [hkind]; decide) (by decide) hvalue

theorem variableDeclarator_of_declarator (hsite : site.Grammatical shape parent)
    (hkind : site.kind = .localVariableDeclaration) {declarator : Site}
    (hdeclarator : declarator ∈ site.childrenIn .declarator) :
    declarator.kind = .variableDeclarator := by
  have hadmits := (hsite.below (Site.mem_children_of_mem_childrenIn hdeclarator)).admitsPart
  have hrole := Site.role_of_mem_childrenIn hdeclarator
  rw [Site.kind] at hkind
  simpa [Node.admitsPart, hkind, hrole, Site.kind] using hadmits

def variableParts (site : Site) : List Site :=
  (site.child? .type).toList ++
    ((site.childOfKind? .modifiers).toList ++ site.childrenIn .declarator)

theorem nodup_variableParts (hsite : site.Grammatical shape parent)
    (hkind : site.kind = .localVariableDeclaration) : (variableParts site).Nodup := by
  have hpicked : (site.childrenIn .declarator ++ (site.child? .type).toList).Nodup := by
    refine List.Nodup.append (site.nodup_children.filter _) ?_ ?_
    · cases site.child? .type <;> simp
    · intro other hdeclarator htype
      have hroles := (Site.role_of_mem_childrenIn hdeclarator).symm.trans
        (Site.role_of_child? (Option.mem_toList.mp htype))
      cases hroles
  have hkinds : ∀ other, other ∈ site.childrenIn .declarator ++ (site.child? .type).toList →
      other.kind ≠ .modifiers := by
    intro other hother
    rcases List.mem_append.mp hother with hdeclarator | htype
    · rw [variableDeclarator_of_declarator hsite hkind hdeclarator]
      decide
    · have htype := Option.mem_toList.mp htype
      exact ((hsite.below (Site.mem_children_of_child? htype)).kind_of_role
        (Or.inl (Site.role_of_child? htype))).1
  have happart := site.nodup_append_ofKind hpicked hkinds
  rw [List.append_assoc, List.perm_append_comm.nodup_iff, List.append_assoc] at happart
  exact happart

theorem localVariables (hvisit : TouringVisit unit shape visit)
    (hsite : site.Visitable shape parent) (hkind : site.kind = .localVariableDeclaration) :
    Tours unit shape false (.whole parent site) (Walker.localVariables unit visit site) := by
  have hplain : site.kind.isPlain = true := by
    rw [hkind]
    rfl
  have hall := NodeKind.visitsAll_of_isPlain hplain
  apply Tours.underDeclaration
  refine Tours.enter (Tours.bind ?_ fun meaning => Tours.bind (Tours.discard ?_) fun _ => ?_)
    (nodup_variableParts hsite.grammatical hkind) hplain hsite.body
  · -- The type is left out if it is to be inferred.
    generalize (site.child? .type).any _ = inferred
    cases inferred with
    | true =>
        cases htype : site.child? .type <;> exact Tours.pure _
    | false =>
        have hvisited := Tours.visitRole hvisit hsite.grammatical hall .type
        cases htype : site.child? .type with
        | none => exact Tours.pure _
        | some type =>
            rw [htype] at hvisited
            exact hvisited
  · exact Tours.visit? hvisit fun _ hfound => hsite.grammatical.mayVisit_of_visitsAll hall
      (Site.mem_children_of_childOfKind? hfound)
  · apply Tours.forSites
    intro declarator hdeclarator
    have hmay := hsite.grammatical.mayVisit_of_visitsAll hall
      (Site.mem_children_of_mem_childrenIn hdeclarator)
    apply Tours.part hmay
    exact Tours.localVariable hvisit hmay.visitable
      (variableDeclarator_of_declarator hsite.grammatical hkind hdeclarator) _ _

theorem variableType (hvisit : TouringVisit unit shape visit)
    (hsite : site.Grammatical shape parent)
    (hkind : site.kind.declaresName = true) (hother : site.kind ≠ .enumConstant)
    (roles : List Role) :
    Tours unit shape false
      (.inside site (site.childrenExcept ((Role.name :: roles).map site.child?)))
      (Walker.variableType visit site roles) := by
  unfold Walker.variableType
  apply Tours.foldSites
  intro type part hpart
  split
  · exact Tours.pure type
  · exact Tours.map (Tours.visitChild hvisit
      (hsite.mayVisit_of_mem_childrenExcept hkind hother List.mem_cons_self hpart)) _

theorem nodup_variableType_append (site : Site) {roles order : List Role} (horder : order.Nodup)
    (hroles : ∀ role, role ∈ order → role ∈ roles) :
    (site.childrenExcept (roles.map site.child?) ++ site.childrenAs order).Nodup := by
  apply Site.nodup_childrenExcept_append (site.nodup_childrenAs horder)
  intro other hother
  rcases Site.mem_childrenAs.mp hother with ⟨role, hrole, hfound⟩
  exact List.mem_map.mpr ⟨role, hroles role hrole, hfound⟩

theorem enhancedFor (hvisit : TouringVisit unit shape visit) (hsite : site.Visitable shape parent)
    (hkind : site.kind = .enhancedForStatement) :
    Tours unit shape false (.whole parent site) (Walker.enhancedFor unit visit site) := by
  have hdeclares : site.kind.declaresName = true := by
    rw [hkind]
    rfl
  have hother : site.kind ≠ .enumConstant := by
    rw [hkind]
    decide
  have hrole : ∀ role, role ≠ Role.name →
      Tours unit shape false (.inside site (site.child? role).toList)
        (Walker.visit? visit (site.child? role)) := fun role hrole =>
    Tours.visit? hvisit fun _ hfound =>
      hsite.grammatical.mayVisit_of_ne_name hdeclares hother hrole hfound
  refine Tours.inBlock (Tours.bind (Tours.variableType hvisit hsite.grammatical hdeclares hother _)
    fun type => Tours.bind (Tours.discard (hrole .value (by decide))) fun _ =>
      Tours.bind (Tours.declareName hdeclares rfl rfl type) fun _ =>
        Tours.discard (hrole .body (by decide))) ?_
    (Site.opensBlock_of_kind (by rw [hkind]; rfl)) (by rw [hkind]; decide)
  have happart := nodup_variableType_append site
    (show [Role.value, Role.name, Role.body].Nodup by decide)
    (show ∀ role, role ∈ [Role.value, Role.name, Role.body] →
      role ∈ [Role.name, Role.value, Role.body] by decide)
  simpa [Site.childrenAs] using happart

theorem resource (hvisit : TouringVisit unit shape visit) (hsite : site.Visitable shape parent)
    (hkind : site.kind = .resource) :
    Tours unit shape false (.whole parent site) (Walker.resource unit visit site) := by
  have hdeclares : site.kind.declaresName = true := by
    rw [hkind]
    rfl
  have hother : site.kind ≠ .enumConstant := by
    rw [hkind]
    decide
  have hopens : site.kind.opensNothing = true := by
    rw [hkind]
    rfl
  unfold Walker.resource
  cases hname : site.child? .name with
  | none =>
      refine Tours.enterNode (Tours.visitAll hvisit fun child hchild => ?_)
        site.nodup_namedChildren hopens hsite.body
      exact hsite.grammatical.mayVisit_of_declaresName hdeclares hother
        (Site.mem_children_of_mem_namedChildren hchild) (by rw [hname]; simp)
  | some nameSite =>
      refine Tours.enterNode (Tours.bind
        (Tours.variableType hvisit hsite.grammatical hdeclares hother _) fun type =>
          Tours.bind (Tours.discard (Tours.visit? hvisit fun _ hfound =>
            hsite.grammatical.mayVisit_of_ne_name hdeclares hother (by decide) hfound)) fun _ =>
              Tours.declareName hdeclares hname rfl type) ?_ hopens hsite.body
      have happart := nodup_variableType_append site
        (show [Role.value, Role.name].Nodup by decide)
        (show ∀ role, role ∈ [Role.value, Role.name] → role ∈ [Role.name, Role.value] by decide)
      simpa [Site.childrenAs, hname] using happart

/-!
# Lambdas
-/

theorem lambdaParameters (hvisit : TouringVisit unit shape visit)
    (hsite : site.Grammatical shape parent)
    (hkind : site.kind = .lambdaExpression) {parameters : Site}
    (hparameters : site.child? .parameters = some parameters) :
    Tours unit shape false (.inside site [parameters])
      (Walker.lambdaParameters unit visit parameters) := by
  have hmem := Site.mem_children_of_child? hparameters
  have hrole := Site.role_of_child? hparameters
  have hbelow := hsite.below hmem
  have hnames := Site.declaredNames_of_lambda hkind
  -- A bare name is declared by the lambda and inferred names by their list; other parameters are
  -- declared when they are visited.
  by_cases hidentifier : parameters.kind = .identifier
  · have hdeclare : Tours unit shape false (.inside site (some parameters).toList)
        (Walker.declare unit (some parameters) .parameter none) := by
      apply Tours.declare none _ rfl
      rintro found hfound
      cases hfound
      simp [hnames, hparameters, hidentifier]
    simpa [Walker.lambdaParameters, hidentifier] using hdeclare
  · have hundeclared : parameters ∉ site.declaredNames := by
      simp [hnames, hparameters, hidentifier]
    have hbody : parameters.isAnonymousBody (some site) = false :=
      Site.isAnonymousBody_of_kind (by rw [hkind]; decide)
    apply Tours.child hmem hundeclared
    by_cases hinferred : parameters.kind = .inferredParameters
    · have hinner : parameters.declaredNames = parameters.namedChildren := by
        rw [Site.declaredNames, hinferred]
        rfl
      simp only [Walker.lambdaParameters, hinferred]
      refine Tours.enterNode (Tours.forSites fun name hname => ?_) parameters.nodup_namedChildren
        (by rw [hinferred]; rfl) hbody
      exact fun walk => Tour.declare none (by rw [hinner]; exact hname) rfl
    · have hplain : parameters.kind.isPlain = true := by
        have hadmits := hbelow.admitsPart
        rw [Site.kind] at hkind hinferred
        simpa [Node.admitsPart, hkind, hrole, hinferred, Site.kind] using hadmits
      simp only [Walker.lambdaParameters]
      exact (Tours.visitChildren hvisit hbelow (NodeKind.visitsAll_of_isPlain hplain)).enter
        parameters.nodup_namedChildren hplain hbody

theorem lambdaBody (hvisit : TouringVisit unit shape visit) (hsite : site.Grammatical shape parent)
    (hkind : site.kind = .lambdaExpression) :
    Tours unit shape false (.inside site (site.child? .body).toList)
      (Walker.visit? visit (site.child? .body)) := by
  apply Tours.visit? hvisit
  intro body hbody
  have hmem := Site.mem_children_of_child? hbody
  have hrole := Site.role_of_child? hbody
  have hparameters : body.node.role ≠ some .parameters := by
    rw [hrole]
    decide
  refine ⟨hmem, ?_, hsite.below hmem, (hsite.below hmem).ne_inferredParameters (Or.inr hparameters),
    Site.isAnonymousBody_of_kind (by rw [hkind]; decide)⟩
  rw [Site.declaredNames_of_lambda hkind, Option.mem_toList]
  intro _ hdeclared
  exact hparameters (Site.role_of_child? (Option.filter_eq_some_iff.mp hdeclared).1)

theorem lambda (hvisit : TouringVisit unit shape visit) (hsite : site.Visitable shape parent)
    (hkind : site.kind = .lambdaExpression) :
    Tours unit shape false (.whole parent site) (Walker.lambda unit visit site) := by
  have hbody := Tours.discard (Tours.lambdaBody hvisit hsite.grammatical hkind)
  refine Tours.inBlock ?_ (site.nodup_pair (show Role.parameters ≠ Role.body by decide))
    (Site.opensBlock_of_kind (by rw [hkind]; rfl)) (by rw [hkind]; decide)
  cases hparameters : site.child? .parameters with
  | none => exact hbody
  | some parameters =>
      exact Tours.bind (Tours.lambdaParameters hvisit hsite.grammatical hkind hparameters)
        fun _ => hbody

/-!
# Patterns and labels
-/

theorem typeTest (hvisit : TouringVisit unit shape visit) (hsite : site.Visitable shape parent)
    (hkind : site.kind = .instanceofExpression) :
    Tours unit shape false (.whole parent site) (Walker.typeTest unit visit site) := by
  have hdeclares : site.kind.declaresName = true := by
    rw [hkind]
    rfl
  refine Tours.enterNode (Tours.bind (Tours.visitEach hvisit fun child hchild => ?_)
    fun visited => Tours.declareName hdeclares rfl rfl _) ?_ (by rw [hkind]; rfl) hsite.body
  · exact hsite.grammatical.mayVisit_of_mem_childrenExcept hdeclares (by rw [hkind]; decide)
      List.mem_cons_self hchild
  · apply Site.nodup_childrenExcept_append
    · cases site.child? .name <;> simp
    · intro other hother
      rw [Option.mem_toList] at hother
      simp [hother]

theorem patternPart (hvisit : TouringVisit unit shape visit) (hsite : site.Grammatical shape parent)
    (hkind : site.kind = .typePattern ∨ site.kind = .recordPatternComponent) {part : Site}
    (hpart : part ∈ site.namedChildren) (type : Option SymbolId) :
    Tours unit shape false (.inside site [part]) (Walker.patternPart unit visit type part) := by
  have hnames : site.declaredNames =
      site.namedChildren.filter fun child => child.kind = .identifier := by
    rcases hkind with hkind | hkind <;> rw [Site.declaredNames, hkind] <;> rfl
  unfold Walker.patternPart
  by_cases hidentifier : part.kind = .identifier
  · have hdeclared : part ∈ site.declaredNames := by
      simp [hnames, hpart, hidentifier]
    simp only [hidentifier]
    exact Tours.map (fun walk => Tour.declare type hdeclared rfl) _
  · have hmay : site.MayVisit shape part := by
      apply hsite.mayVisit (Site.mem_children_of_mem_namedChildren hpart)
      · rcases hkind with hkind | hkind <;> rw [hkind] <;> decide
      · simp [hnames, hidentifier]
    split
    · exact absurd ‹_› hidentifier
    · exact Tours.map (Tours.discard (Tours.visitChild hvisit hmay)) _
    · exact Tours.map (Tours.visitChild hvisit hmay) _

theorem typePattern (hvisit : TouringVisit unit shape visit) (hsite : site.Visitable shape parent)
    (hkind : site.kind = .typePattern ∨ site.kind = .recordPatternComponent) :
    Tours unit shape false (.whole parent site) (Walker.typePattern unit visit site) := by
  have hopens : site.kind.opensNothing = true := by
    rcases hkind with hkind | hkind <;> rw [hkind] <;> rfl
  have hparts := Tours.foldSites (fun type part hpart =>
    Tours.patternPart hvisit hsite.grammatical hkind hpart type) none
  exact Tours.discard (hparts.enterNode site.nodup_namedChildren hopens hsite.body)

theorem typeParameter (hvisit : TouringVisit unit shape visit) (hsite : site.Visitable shape parent)
    (hkind : site.kind = .typeParameter) :
    Tours unit shape false (.whole parent site) (Walker.typeParameter visit site) := by
  have hnames : site.declaredNames = (site.childOfKind? .typeIdentifier).toList := by
    rw [Site.declaredNames, hkind]
    rfl
  refine Tours.enterNode (Tours.visitAll hvisit fun child hchild => ?_)
    (site.nodup_namedChildren.filter _) (by rw [hkind]; rfl) hsite.body
  apply hsite.grammatical.mayVisit (Site.mem_children_of_mem_childrenExcept hchild)
    (by rw [hkind]; decide)
  rw [hnames, Option.mem_toList]
  intro _ hname
  exact Site.ne_of_mem_childrenExcept hchild (hname ▸ List.mem_cons_self) rfl

theorem labeledStatement (hvisit : TouringVisit unit shape visit)
    (hsite : site.Visitable shape parent) (hkind : site.kind = .labeledStatement) :
    Tours unit shape false (.whole parent site)
      (Walker.visitAll visit (site.namedChildren.drop 1)) := by
  have hnames : site.declaredNames = site.namedChildren.take 1 := by
    rw [Site.declaredNames, hkind]
    rfl
  have hapart := site.nodup_namedChildren
  rw [← List.take_append_drop 1 site.namedChildren, List.nodup_append] at hapart
  refine Tours.enterNode (Tours.visitAll hvisit fun child hchild => ?_) hapart.2.1
    (by rw [hkind]; rfl) hsite.body
  apply hsite.grammatical.mayVisit
    (Site.mem_children_of_mem_namedChildren (List.mem_of_mem_drop hchild)) (by rw [hkind]; decide)
  rw [hnames]
  intro _ hlabel
  exact hapart.2.2 child hlabel child hchild rfl

end Tours
end RestrictedApi
