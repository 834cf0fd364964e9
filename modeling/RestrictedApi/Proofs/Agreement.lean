import RestrictedApi.Extraction
import RestrictedApi.Proofs.Ancestry

/-!
# Where a step goes on

A step goes on only to sites below its own, so two visits that agree there make the same step.  This
module shows it of every step but the walks along chains, for which agreement on fewer sites
suffices.
-/

namespace RestrictedApi

/-- Two visits agree at every site below a site. -/
def AgreeBelow (visit other : Visit) (site : Site) : Prop :=
  ∀ child, child ∈ site.children → ∀ steps place, child.descend? steps = some place →
    visit place = other place

namespace Walker

/-!
# Lists
-/

theorem forM_congr {α : Type} {items : List α} {step other : α → Walker Unit}
    (hstep : ∀ item, item ∈ items → step item = other item) :
    items.forM step = items.forM other := by
  induction items with
  | nil => rfl
  | cons item rest ih =>
      change (step item >>= fun _ => rest.forM step) = other item >>= fun _ => rest.forM other
      rw [hstep item List.mem_cons_self,
        ih fun later hlater => hstep later (List.mem_cons_of_mem item hlater)]

theorem mapM_congr {α β : Type} {items : List α} {step other : α → Walker β}
    (hstep : ∀ item, item ∈ items → step item = other item) :
    items.mapM step = items.mapM other := by
  induction items with
  | nil => rfl
  | cons item rest ih =>
      rw [List.mapM_cons, List.mapM_cons, hstep item List.mem_cons_self,
        ih fun later hlater => hstep later (List.mem_cons_of_mem item hlater)]

theorem foldlM_congr {α β : Type} {items : List α} {step other : β → α → Walker β}
    (hstep : ∀ item, item ∈ items → ∀ value, step value item = other value item) (start : β) :
    items.foldlM step start = items.foldlM other start := by
  induction items generalizing start with
  | nil => rfl
  | cons item rest ih =>
      rw [List.foldlM_cons, List.foldlM_cons, hstep item List.mem_cons_self]
      congr 1
      funext value
      exact ih (fun later hlater => hstep later (List.mem_cons_of_mem item hlater)) value

end Walker

namespace AgreeBelow

variable {unit : WalkedUnit} {visit other : Visit} {site child : Site}

/-!
# Children
-/

theorem visit_eq (h : AgreeBelow visit other site) (hchild : child ∈ site.children) :
    visit child = other child :=
  h child hchild [] child rfl

theorem of_descend? (h : ∀ steps place, site.descend? steps = some place →
    visit place = other place) : AgreeBelow visit other site := by
  intro child hchild steps place hplace
  rcases Site.exists_step_of_mem_children hchild with ⟨i, _, hi⟩
  exact h (i :: steps) place ((hi steps).trans hplace)

theorem below (h : AgreeBelow visit other site) (hchild : child ∈ site.children) :
    AgreeBelow visit other child :=
  of_descend? (h child hchild)

theorem visitAll (h : AgreeBelow visit other site) {sites : List Site}
    (hsites : ∀ {child}, child ∈ sites → child ∈ site.children) :
    Walker.visitAll visit sites = Walker.visitAll other sites := by
  apply Walker.forM_congr
  intro child hchild
  rw [h.visit_eq (hsites hchild)]

theorem visitChildren (h : AgreeBelow visit other site) :
    Walker.visitChildren visit site = Walker.visitChildren other site :=
  h.visitAll Site.mem_children_of_mem_namedChildren

theorem visitExcept (h : AgreeBelow visit other site) (excluded : List (Option Site)) :
    Walker.visitAll visit (site.childrenExcept excluded) =
      Walker.visitAll other (site.childrenExcept excluded) :=
  h.visitAll Site.mem_children_of_mem_childrenExcept

theorem visitEach (h : AgreeBelow visit other site) {sites : List Site}
    (hsites : ∀ {child}, child ∈ sites → child ∈ site.children) :
    Walker.visitEach visit sites = Walker.visitEach other sites := by
  apply Walker.mapM_congr
  intro child hchild
  rw [h.visit_eq (hsites hchild)]

theorem visit? (h : AgreeBelow visit other site) {found : Option Site}
    (hfound : ∀ {child}, found = some child → child ∈ site.children) :
    Walker.visit? visit found = Walker.visit? other found := by
  cases found with
  | none => rfl
  | some child => exact h.visit_eq (hfound rfl)

theorem visitRole (h : AgreeBelow visit other site) (role : Role) :
    Walker.visit? visit (site.child? role) = Walker.visit? other (site.child? role) :=
  h.visit? Site.mem_children_of_child?

theorem visitKind (h : AgreeBelow visit other site) (kind : NodeKind) :
    Walker.visit? visit (site.childOfKind? kind) = Walker.visit? other (site.childOfKind? kind) :=
  h.visit? Site.mem_children_of_childOfKind?

/-!
# Names
-/

mutual

theorem scopedType (path : Path) (node : Node) (h : AgreeBelow visit other ⟨path, node⟩) :
    Walker.scopedType unit visit path node = Walker.scopedType unit other path node := by
  cases node with
  | mk kind named role line column offset length text children =>
      have hparts : ∀ last, Walker.scopedTypeParts unit visit last path 0 true children =
          Walker.scopedTypeParts unit other last path 0 true children :=
        fun last => scopedTypeParts h last path 0 true children fun _ hpart => hpart
      simp only [Walker.scopedType, h.visitChildren, hparts]

theorem scopedTypeParts {whole : Site} (h : AgreeBelow visit other whole) (last : Site)
    (path : Path) (index : Nat) (first : Bool) (nodes : List Node)
    (hnodes : ∀ part, part ∈ Site.number path index nodes → part ∈ whole.children) :
    Walker.scopedTypeParts unit visit last path index first nodes =
      Walker.scopedTypeParts unit other last path index first nodes := by
  cases nodes with
  | nil => rw [Walker.scopedTypeParts, Walker.scopedTypeParts]
  | cons child rest =>
      have hchild : ⟨index :: path, child⟩ ∈ whole.children := hnodes _ List.mem_cons_self
      have hrest : ∀ part, part ∈ Site.number path (index + 1) rest → part ∈ whole.children :=
        fun part hpart => hnodes part (List.mem_cons_of_mem _ hpart)
      simp only [Walker.scopedTypeParts, h.visit_eq hchild,
        scopedType (index :: path) child (h.below hchild),
        scopedTypeParts h last path (index + 1) false rest hrest,
        scopedTypeParts h last path (index + 1) first rest hrest]

end

theorem annotationArgument (h : AgreeBelow visit other site) (type : Option SymbolId)
    (hchild : child ∈ site.children) :
    Walker.annotationArgument unit visit type child =
      Walker.annotationArgument unit other type child := by
  unfold Walker.annotationArgument
  rw [h.visit_eq hchild, (h.below hchild).visitRole]

theorem annotationUse (h : AgreeBelow visit other site) :
    Walker.annotationUse unit visit site = Walker.annotationUse unit other site := by
  unfold Walker.annotationUse
  cases harguments : site.child? .arguments with
  | none => rfl
  | some arguments =>
      have hlist : ∀ type : Option SymbolId,
          arguments.namedChildren.forM (Walker.annotationArgument unit visit type) =
            arguments.namedChildren.forM (Walker.annotationArgument unit other type) := by
        intro type
        apply Walker.forM_congr
        intro argument hargument
        exact (h.below (Site.mem_children_of_child? harguments)).annotationArgument type
          (Site.mem_children_of_mem_namedChildren hargument)
      simp only [hlist]

/-!
# Expressions
-/

theorem assignment (h : AgreeBelow visit other site) :
    Walker.assignment visit site = Walker.assignment other site := by
  simp only [Walker.assignment, h.visitRole]

theorem cast (h : AgreeBelow visit other site) :
    Walker.cast visit site = Walker.cast other site := by
  simp only [Walker.cast, h.visitRole]

theorem conditional (h : AgreeBelow visit other site) :
    Walker.conditional visit site = Walker.conditional other site := by
  simp only [Walker.conditional, h.visitEach Site.mem_children_of_mem_namedChildren]

theorem genericType (h : AgreeBelow visit other site) :
    Walker.genericType visit site = Walker.genericType other site := by
  simp only [Walker.genericType, h.visitEach Site.mem_children_of_mem_namedChildren]

theorem switch (h : AgreeBelow visit other site) :
    Walker.switch visit site = Walker.switch other site := by
  simp only [Walker.switch, h.visitRole]

theorem switchLabel (h : AgreeBelow visit other site) :
    Walker.switchLabel unit visit site = Walker.switchLabel unit other site := by
  apply Walker.forM_congr
  intro part hpart
  unfold Walker.labelPart
  rw [h.visit_eq (Site.mem_children_of_mem_namedChildren hpart)]

theorem anonymousBody (h : AgreeBelow visit other site) (supertype : Option SymbolId) :
    Walker.anonymousBody visit supertype site = Walker.anonymousBody other supertype site := by
  unfold Walker.anonymousBody
  rw [h.visitChildren]

theorem visitPart (h : AgreeBelow visit other site) {role : Role} {part : Site}
    (hpart : site.child? role = some part) :
    Walker.visitChildren visit part = Walker.visitChildren other part :=
  (h.below (Site.mem_children_of_child? hpart)).visitChildren

theorem objectCreation (h : AgreeBelow visit other site) :
    Walker.objectCreation visit site = Walker.objectCreation other site := by
  unfold Walker.objectCreation
  simp only [h.visitExcept, h.visitRole]
  cases harguments : site.child? .arguments with
  | none =>
      cases hbody : site.childOfKind? .classBody with
      | none => rfl
      | some body =>
          simp only [(h.below (Site.mem_children_of_childOfKind? hbody)).anonymousBody]
  | some arguments =>
      cases hbody : site.childOfKind? .classBody with
      | none => simp only [h.visitPart harguments]
      | some body =>
          simp only [h.visitPart harguments,
            (h.below (Site.mem_children_of_childOfKind? hbody)).anonymousBody]

theorem methodReference (h : AgreeBelow visit other site) :
    Walker.methodReference unit visit site = Walker.methodReference unit other site := by
  unfold Walker.methodReference
  cases hchildren : site.namedChildren with
  | nil => rfl
  | cons qualifier rest =>
      have hmem : ∀ {part}, part ∈ qualifier :: rest → part ∈ site.children :=
        fun hpart => Site.mem_children_of_mem_namedChildren (hchildren ▸ hpart)
      have hqualifier : Walker.referenceQualifier unit visit qualifier =
          Walker.referenceQualifier unit other qualifier := by
        unfold Walker.referenceQualifier
        rw [h.visit_eq (hmem List.mem_cons_self)]
      have harguments : ∀ {part},
          part ∈ (rest.filter fun child => child.kind = .typeArguments) → part ∈ site.children :=
        fun hpart => hmem (List.mem_cons_of_mem _ (List.mem_filter.mp hpart).1)
      simp only [hqualifier, h.visitAll harguments]

theorem constructorInvocation (h : AgreeBelow visit other site) :
    Walker.constructorInvocation unit visit site =
      Walker.constructorInvocation unit other site := by
  unfold Walker.constructorInvocation
  simp only [h.visitRole, h.visitKind]
  cases harguments : site.child? .arguments with
  | none => rfl
  | some arguments => simp only [h.visitPart harguments]

/-!
# Types and members
-/

theorem parameterPart (h : AgreeBelow visit other site) (skipped : NodeKind → Bool)
    (hchild : child ∈ site.children) (type : Option SymbolId) :
    Walker.parameterPart visit skipped type child =
      Walker.parameterPart other skipped type child := by
  unfold Walker.parameterPart
  rw [h.visit_eq hchild, (h.below hchild).visitEach Site.mem_children_of_mem_namedChildren]

theorem parameterType (h : AgreeBelow visit other site) :
    Walker.parameterType visit site = Walker.parameterType other site := by
  apply Walker.foldlM_congr
  intro part hpart type
  exact h.parameterPart _ (Site.mem_children_of_mem_childrenExcept hpart) type

theorem typeDeclarationPart (h : AgreeBelow visit other site) (hchild : child ∈ site.children) :
    Walker.typeDeclarationPart visit child = Walker.typeDeclarationPart other child := by
  unfold Walker.typeDeclarationPart
  split
  · apply Walker.forM_congr
    intro component hcomponent
    have hmem := Site.mem_children_of_mem_namedChildren hcomponent
    rw [((h.below hchild).below hmem).parameterType]
  · rw [h.visit_eq hchild]

theorem typeDeclaration (h : AgreeBelow visit other site) :
    Walker.typeDeclaration unit visit site = Walker.typeDeclaration unit other site := by
  have hparts : (site.childrenExcept [site.child? .name]).forM (Walker.typeDeclarationPart visit) =
      (site.childrenExcept [site.child? .name]).forM (Walker.typeDeclarationPart other) := by
    apply Walker.forM_congr
    intro part hpart
    exact h.typeDeclarationPart (Site.mem_children_of_mem_childrenExcept hpart)
  simp only [Walker.typeDeclaration, hparts]

theorem fieldDeclaration (h : AgreeBelow visit other site) :
    Walker.fieldDeclaration visit site = Walker.fieldDeclaration other site := by
  unfold Walker.fieldDeclaration
  rw [h.visitChildren]

theorem methodDeclaration (h : AgreeBelow visit other site) :
    Walker.methodDeclaration unit visit site = Walker.methodDeclaration unit other site := by
  unfold Walker.methodDeclaration
  rw [h.visitExcept]

theorem enumConstant (h : AgreeBelow visit other site) :
    Walker.enumConstant visit site = Walker.enumConstant other site := by
  unfold Walker.enumConstant
  simp only [h.visitExcept]
  cases hbody : site.child? .body with
  | none => rfl
  | some body => simp only [(h.below (Site.mem_children_of_child? hbody)).anonymousBody]

/-!
# Variables and patterns
-/

theorem localVariables (h : AgreeBelow visit other site) :
    Walker.localVariables unit visit site = Walker.localVariables unit other site := by
  have hdeclarators : ∀ (inferred : Bool) (declared : Option SymbolId),
      (site.childrenIn .declarator).forM (Walker.localVariable unit visit inferred declared) =
        (site.childrenIn .declarator).forM (Walker.localVariable unit other inferred declared) := by
    intro inferred declared
    apply Walker.forM_congr
    intro declarator hdeclarator
    simp only [Walker.localVariable,
      (h.below (Site.mem_children_of_mem_childrenIn hdeclarator)).visitRole]
  have htype : ∀ {keep : Site → Bool} {part},
      (site.child? .type).filter keep = some part → part ∈ site.children :=
    fun hpart => Site.mem_children_of_child? (Option.filter_eq_some_iff.mp hpart).1
  simp only [Walker.localVariables, h.visit? htype, h.visitKind, hdeclarators]

theorem parameter (h : AgreeBelow visit other site) :
    Walker.parameter unit visit site = Walker.parameter unit other site := by
  simp only [Walker.parameter, h.parameterType]

theorem variableType (h : AgreeBelow visit other site) (roles : List Role) :
    Walker.variableType visit site roles = Walker.variableType other site roles := by
  apply Walker.foldlM_congr
  intro part hpart type
  rw [h.visit_eq (Site.mem_children_of_mem_childrenExcept hpart)]

theorem enhancedFor (h : AgreeBelow visit other site) :
    Walker.enhancedFor unit visit site = Walker.enhancedFor unit other site := by
  simp only [Walker.enhancedFor, h.variableType, h.visitRole]

theorem resource (h : AgreeBelow visit other site) :
    Walker.resource unit visit site = Walker.resource unit other site := by
  simp only [Walker.resource, h.visitChildren, h.variableType, h.visitRole]

theorem lambda (h : AgreeBelow visit other site) :
    Walker.lambda unit visit site = Walker.lambda unit other site := by
  unfold Walker.lambda
  cases hparameters : site.child? .parameters with
  | none => simp only [h.visitRole]
  | some parameters => simp only [Walker.lambdaParameters, h.visitPart hparameters, h.visitRole]

theorem typeTest (h : AgreeBelow visit other site) :
    Walker.typeTest unit visit site = Walker.typeTest unit other site := by
  simp only [Walker.typeTest, h.visitEach Site.mem_children_of_mem_childrenExcept]

theorem typePattern (h : AgreeBelow visit other site) :
    Walker.typePattern unit visit site = Walker.typePattern unit other site := by
  unfold Walker.typePattern
  rw [Walker.foldlM_congr]
  intro part hpart type
  unfold Walker.patternPart
  rw [h.visit_eq (Site.mem_children_of_mem_namedChildren hpart)]

theorem typeParameter (h : AgreeBelow visit other site) :
    Walker.typeParameter visit site = Walker.typeParameter other site :=
  h.visitExcept _

/-!
# Steps
-/

theorem packageAnnotations (h : AgreeBelow visit other site)
    (hkind : site.kind = .packageDeclaration) :
    site.annotations.forM (Walker.annotationUse unit visit) =
      site.annotations.forM (Walker.annotationUse unit other) := by
  apply Walker.forM_congr
  intro use huse
  rw [Site.annotations, if_pos hkind] at huse
  have hnamed : use ∈ site.namedChildren := (List.mem_filter.mp huse).1
  exact (h.below (Site.mem_children_of_mem_namedChildren hnamed)).annotationUse

theorem step (h : AgreeBelow visit other site) (hmember : site.kind.isMemberLink = false)
    (hoperator : site.kind.isOperatorLink = false) :
    Walker.step unit visit site = Walker.step unit other site := by
  unfold Walker.step
  cases hkind : site.kind with
  | packageDeclaration => exact congrArg Walker.silent (h.packageAnnotations hkind)
  | importDeclaration | moduleDeclaration | lineComment | blockComment | breakStatement
  | continueStatement | typeIdentifier | identifier | scopedIdentifier | thisKeyword => rfl
  | classDeclaration | interfaceDeclaration | enumDeclaration | annotationTypeDeclaration
  | recordDeclaration => exact congrArg Walker.silent h.typeDeclaration
  | fieldDeclaration | constantDeclaration => exact congrArg Walker.silent h.fieldDeclaration
  | methodDeclaration | constructorDeclaration | compactConstructorDeclaration
  | annotationElementDeclaration => exact congrArg Walker.silent h.methodDeclaration
  | enumConstant => exact congrArg Walker.silent h.enumConstant
  | localVariableDeclaration => exact congrArg Walker.silent h.localVariables
  | formalParameter | spreadParameter | catchFormalParameter =>
      exact congrArg Walker.silent h.parameter
  | variableDeclarator => exact congrArg (Walker.silent ∘ discard) (h.visitRole .value)
  | block | constructorBody | staticInitializer | switchGroup | switchRule | forStatement
  | catchClause | tryWithResources =>
      exact congrArg (Walker.silent ∘ Walker.inBlock) h.visitChildren
  | enhancedForStatement => exact congrArg Walker.silent h.enhancedFor
  | resource => exact congrArg Walker.silent h.resource
  | lambdaExpression => exact congrArg Walker.silent h.lambda
  | labeledStatement =>
      apply congrArg Walker.silent
      exact h.visitAll fun hpart =>
        Site.mem_children_of_mem_namedChildren (List.mem_of_mem_drop hpart)
  | explicitConstructorInvocation => exact congrArg Walker.silent h.constructorInvocation
  | scopedTypeIdentifier => exact scopedType site.path site.node h
  | genericType => exact h.genericType
  | typeParameter => exact congrArg Walker.silent h.typeParameter
  | annotationMarker | annotationCall => exact congrArg Walker.silent h.annotationUse
  | fieldAccess | methodInvocation =>
      rw [hkind] at hmember
      cases hmember
  | binaryExpression =>
      rw [hkind] at hoperator
      cases hoperator
  | switchExpression => exact congrArg Walker.silent h.switch
  | switchLabel => exact congrArg Walker.silent h.switchLabel
  | objectCreation => exact h.objectCreation
  | methodReference => exact congrArg Walker.silent h.methodReference
  | castExpression => exact h.cast
  | parenthesizedExpression =>
      exact h.visit? fun hfirst =>
        Site.mem_children_of_mem_namedChildren (List.mem_of_mem_head? hfirst)
  | ternaryExpression => exact h.conditional
  | assignmentExpression => exact h.assignment
  | instanceofExpression => exact congrArg Walker.silent h.typeTest
  | typePattern | recordPatternComponent => exact congrArg Walker.silent h.typePattern
  | _ => exact congrArg Walker.silent h.visitChildren

end AgreeBelow

end RestrictedApi
