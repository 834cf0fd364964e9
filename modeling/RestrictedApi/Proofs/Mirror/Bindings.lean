import RestrictedApi.Proofs.Mirror.Expressions

/-!
# Declarations side by side

A declaration opens the same blocks, silences the same warnings and brings the same locals into
scope, and the symbols that it appends get the numbers that the renumbering moves.  The type of a
parameter or of a pattern is what its last part denotes, so none of their parts is left out.
-/

namespace RestrictedApi

namespace Mirror

open Renumbering

variable {m : Mirror} {visit visit' : Visit} {site twin : Site}

/-!
# Scopes
-/

theorem localSupertype? (h : m.twins site twin) :
    m.Steps (Option.map m.number) (Walker.localSupertype? m.unit site)
      (Walker.localSupertype? m.twinUnit twin) := by
  have hname :
      ((twin.child? .superclass).bind fun clause => clause.namedChildren.head?.bind
        fun type => type.node.typeName?) =
      (site.child? .superclass).bind fun clause => clause.namedChildren.head?.bind
        fun type => type.node.typeName? := by
    refine (h.childOf? .superclass).casesOn (fun hclause => ?_) rfl
    have horders := Site.ordersChildren_of_role (Or.inr hclause.2.2)
    rw [Option.bind_some, Option.bind_some]
    exact (head?_of_forall₂ (hclause.1.namedChildren.ordered horders)).casesOn
      Twinning.twins.typeName_eq rfl
  simp only [Walker.localSupertype?, Option.bind_eq_bind, hname]
  refine bind_get Walk.enclosingTypes (fun _ => rfl) fun {walk _} htypes => .pure_rel ?_
  rw [Maps, htypes, enclosingTypes_walk, twinUnit_decls, Declarations.withSites_typeOf?]
  cases ((site.child? .superclass).bind fun clause => clause.namedChildren.head?.bind
      fun type => type.node.typeName?) with
  | none => rfl
  | some name =>
      exact typeOf_view m.sound ⟨m.unit.unit, walk.enclosingTypes, []⟩ name

theorem enclosingOf (h : m.twins site twin) :
    m.Steps m.enclosing (Walker.enclosingOf m.unit site) (Walker.enclosingOf m.twinUnit twin) := by
  simp only [Walker.enclosingOf, twinUnit_decls, Declarations.withSites_sites, m.sites_eq h]
  cases hsite : m.unit.decls.sites[site.path]? with
  | some id =>
      exact .pure_rel (congrArg Enclosing.declared (number_of_lt (m.sound.sites hsite))).symm
  | none => exact (localSupertype? h).bind fun supertype => .pure (Enclosing.anonymous supertype)

theorem declareTypeParameter (name : String) (parameter : SymbolId) :
    m.Steps id (Walker.declareTypeParameter name parameter)
      (Walker.declareTypeParameter name (m.number parameter)) :=
  modifyBlock fun _ => rfl

theorem declareLocalTypeParameters (h : m.twins site twin) :
    m.Steps id (Walker.declareLocalTypeParameters m.unit site)
      (Walker.declareLocalTypeParameters m.twinUnit twin) := by
  refine Comparison.Steps.forM_all (?_ : List.Forall₂ m.twins _ _) fun hname => ?_
  · refine (h.child? .typeParameters).casesOn (fun hparameters => ?_) .nil
    exact hparameters.namedChildren.filterMap_forall₂
      (fun hparameter => hparameter.childOfKind? _ rfl)
      fun homits => homits.idle.childOfKind?_eq_none rfl
  · rw [hname.text_eq]
    exact (insertSymbol _).bind fun id => declareTypeParameter _ id

theorem openTypeParameters (h : m.twins site twin) :
    m.Steps id (Walker.openTypeParameters m.unit site)
      (Walker.openTypeParameters m.twinUnit twin) := by
  simp only [Walker.openTypeParameters, twinUnit_decls, Declarations.withSites_sites,
    Declarations.withSites_members, m.sites_eq h]
  cases hmember : m.unit.decls.sites[site.path]?.bind fun id => m.unit.decls.members[id]? with
  | none => exact declareLocalTypeParameters h
  | some member =>
      rcases Option.bind_eq_some_iff.mp hmember with ⟨number, _, hnumber⟩
      have hparameters : List.Forall₂ (fun entry entry' => entry' = (entry.1, m.number entry.2))
          member.typeParameters member.typeParameters := by
        refine List.forall₂_same.mpr fun entry hentry => ?_
        have hparameter := (m.sound.members hnumber).2.typeParameters entry.1 entry.2 hentry
        rw [number_of_lt hparameter.lt_size]
      refine .forM_all hparameters ?_
      rintro entry _ rfl
      exact declareTypeParameter entry.1 entry.2

theorem parameterName? (h : m.twins site twin) :
    Option.Rel m.twins (Walker.parameterName? site) (Walker.parameterName? twin) := by
  unfold Walker.parameterName?
  refine (h.child? .name).casesOn .some ?_
  exact (h.childOfKind? .variableDeclarator rfl).casesOn (·.child? .name) .none

section Handlers

variable (hvisit : m.Visits visit visit') (h : m.twins site twin)

include hvisit h

/-!
# Types and members
-/

theorem parameterPart {rel : Option SymbolId → Option SymbolId → Prop}
    (hrel : ∀ type, rel type (type.map m.number)) {type typeTwin : Option SymbolId}
    (htype : rel type typeTwin) :
    m.walks.Steps rel (Walker.parameterPart visit Walker.isParameterName type site)
      (Walker.parameterPart visit' Walker.isParameterName typeTwin twin) := by
  have hmeaning : ∀ meaning : Meaning, rel meaning.type? (m.meaning meaning).type? :=
    fun meaning => type_meaning meaning ▸ hrel _
  simp only [Walker.parameterPart, h.read_kind Walker.isParameterName rfl,
    h.kind_iff .modifiers rfl, h.kind_iff .catchType rfl]
  split
  · exact .pure_rel htype
  · split
    · exact (hvisit.twins h).discard.bind fun _ => .pure_rel htype
    · split
      · rename_i hcatch
        have horders : site.node.ordersChildren = true :=
          Site.ordersChildren_of_kind (hcatch ▸ rfl)
        refine (visitEach_all hvisit (h.namedChildren.ordered horders)).bind_rel ?_ ?_
        · intro visited walk hlive
          split at hlive <;> exact hlive
        · -- Only a single alternative has a type that is known.
          intro visited visitedTwin hvisited
          cases hvisited with
          | nil => exact .pure_rel htype
          | cons hfirst hrest =>
              cases hrest with
              | nil => exact .pure_rel (hfirst.2 ▸ hmeaning _)
              | cons hsecond hothers => exact .pure_rel htype
      · exact (hvisit.twins h).bind fun meaning => .pure_rel (hmeaning meaning)

omit h in
theorem passes_parameterPart (type : Option SymbolId) (hlossy : m.lossy) (h : site.node.Idle) :
    m.walks.Passes (Walker.parameterPart visit Walker.isParameterName type site) := by
  have hkind : site.kind.isUnknown = true := h.kind
  have hname : Walker.isParameterName site.kind = false := NodeKind.unknown_elim hkind rfl rfl
  rw [Walker.parameterPart, hname, if_neg Bool.false_ne_true,
    if_neg (NodeKind.ne_of_isUnknown hkind rfl), if_neg (NodeKind.ne_of_isUnknown hkind rfl)]
  exact (hvisit.idle hlossy h).bind fun _ => .pure _

theorem parameterType (hkind : site.kind.ordersChildren = true) :
    m.Steps (Option.map m.number) (Walker.parameterType visit site)
      (Walker.parameterType visit' twin) := by
  have hparts := (h.childrenExcept (.cons (h.child? .name) .nil)).ordered
    (Site.ordersChildren_of_kind hkind)
  have hmaps : ∀ type, Maps (Option.map m.number) type (type.map m.number) := fun _ => rfl
  exact .foldlM_all hparts (fun hpart _ => parameterPart hvisit hpart hmaps rfl) none

theorem componentType :
    m.Steps id (discard (Walker.parameterType visit site))
      (discard (Walker.parameterType visit' twin)) := by
  have hany : Option SymbolId → ∃ _ : Option SymbolId, True := fun _ => ⟨none, trivial⟩
  refine (Comparison.Steps.foldlM (h.childrenExcept (.cons (h.child? .name) .nil)) hany ?_ ?_
    trivial).discard
  · exact fun hpart _ => parameterPart hvisit hpart (fun _ => trivial) trivial
  · exact fun homits type =>
      ⟨passes_parameterPart hvisit type homits.allowed homits.idle, fun _ => trivial⟩

omit h in
theorem passes_componentType (hlossy : m.lossy) (h : site.node.Idle) :
    m.walks.Passes (discard (Walker.parameterType visit site) : Walker Unit) := by
  refine Comparison.Passes.discard (.foldlM (fun part hpart type => ?_) none)
  have hidle := h.of_mem_namedChildren (List.mem_filter.mp hpart).1
  exact passes_parameterPart hvisit type hlossy hidle

theorem typeDeclarationPart :
    m.Steps id (Walker.typeDeclarationPart visit site)
      (Walker.typeDeclarationPart visit' twin) := by
  simp only [Walker.typeDeclarationPart, h.kind_iff .formalParameters rfl]
  split
  · exact .forM h.namedChildren (componentType hvisit ·)
      fun homits => passes_componentType hvisit homits.allowed homits.idle
  · exact (hvisit.twins h).discard

theorem typeDeclaration :
    m.Steps id (Walker.typeDeclaration m.unit visit site)
      (Walker.typeDeclaration m.twinUnit visit' twin) := by
  refine (enclosingOf h).bind fun enclosing =>
    underDeclaration (within (inBlock ?_) enclosing) h
  refine .forM (h.childrenExcept (.cons (h.child? .name) .nil)) (typeDeclarationPart hvisit ·) ?_
  intro part homits
  have hkind : part.kind ≠ .formalParameters := NodeKind.ne_of_isUnknown homits.idle.kind rfl
  rw [Walker.typeDeclarationPart, if_neg hkind]
  exact (hvisit.omits homits).discard

theorem fieldDeclaration :
    m.Steps id (Walker.fieldDeclaration visit site) (Walker.fieldDeclaration visit' twin) :=
  underDeclaration (visitChildren hvisit h) h

theorem methodDeclaration :
    m.Steps id (Walker.methodDeclaration m.unit visit site)
      (Walker.methodDeclaration m.twinUnit visit' twin) := by
  refine underDeclaration (inBlock ?_) h
  exact (openTypeParameters h).bind fun _ => visitExcept hvisit h (.cons (h.child? .name) .nil)

theorem enumConstant :
    m.Steps id (Walker.enumConstant visit site) (Walker.enumConstant visit' twin) := by
  have hbody := h.child? .body
  refine underDeclaration ((visitExcept hvisit h (.cons (h.child? .name) (.cons hbody .nil))).bind
    fun _ => ?_) h
  refine hbody.casesOn (fun hbody => ?_) (.pure ())
  refine bind_get Walk.thisType? (fun _ => rfl) fun hthis => ?_
  rw [hthis, thisType_walk]
  exact anonymousBody hvisit hbody _

/-!
# Variables and parameters
-/

theorem localVariable (inferred : Bool) (declared : Option SymbolId) :
    m.Steps id (Walker.localVariable m.unit visit inferred declared site)
      (Walker.localVariable m.twinUnit visit' inferred (declared.map m.number) twin) := by
  have hdeclare := declare (h.child? .name) .localVariable
  refine (visitRole hvisit h .value).bind fun value => ?_
  cases value with
  | value type =>
      cases inferred with
      | true => exact hdeclare (some type)
      | false => exact hdeclare declared
  | _ => exact hdeclare declared

theorem localVariables :
    m.Steps id (Walker.localVariables m.unit visit site)
      (Walker.localVariables m.twinUnit visit' twin) := by
  refine underDeclaration ?_ h
  have htype : Option.Rel m.twins
        ((site.child? .type).filter
          fun _ => !(site.child? .type).any fun type => type.text = "var")
        ((twin.child? .type).filter
          fun _ => !(twin.child? .type).any fun type => type.text = "var") ∧
      ((twin.child? .type).any fun type => type.text = "var") =
        (site.child? .type).any fun type => type.text = "var" := by
    refine (h.child? .type).casesOn (fun htype => ?_) ⟨.none, rfl⟩
    simp only [Option.any_some, Option.filter_some, htype.text_eq]
    refine ⟨?_, trivial⟩
    split
    · exact .some htype
    · exact .none
  refine (visit? hvisit htype.1).bind fun meaning => ?_
  refine (visit? hvisit (h.childOfKind? .modifiers rfl)).discard.bind fun _ => ?_
  rw [htype.2, type_meaning]
  exact .forM_all (h.childrenIn .declarator) (localVariable hvisit · _ _)

theorem parameter (hkind : site.kind.ordersChildren = true) :
    m.Steps id (Walker.parameter m.unit visit site) (Walker.parameter m.twinUnit visit' twin) := by
  simp only [Walker.parameter, h.kind_iff .catchFormalParameter rfl]
  exact (parameterType hvisit h hkind).bind fun type => declare (parameterName? h) _ type

theorem variableType (roles : List Role) (hkind : site.kind.ordersChildren = true) :
    m.Steps (Option.map m.number) (Walker.variableType visit site roles)
      (Walker.variableType visit' twin roles) := by
  have hexcluded : ∀ roles : List Role, List.Forall₂ (Option.Rel m.twins)
      (roles.map site.child?) (roles.map twin.child?) := by
    intro roles
    induction roles with
    | nil => exact .nil
    | cons role rest ih => exact .cons (h.child? role) ih
  refine .foldlM_all ((h.childrenExcept (hexcluded (.name :: roles))).ordered
    (Site.ordersChildren_of_kind hkind)) (fun hpart type => ?_) none
  simp only [hpart.kind_iff .dimensions rfl, hpart.kind_iff .modifiers rfl]
  split
  · exact .pure type
  · refine (hvisit.twins hpart).bind fun meaning => .pure_rel ?_
    rw [Maps, type_meaning, apply_ite (Option.map m.number)]

theorem enhancedFor (hkind : site.kind.ordersChildren = true) :
    m.Steps id (Walker.enhancedFor m.unit visit site)
      (Walker.enhancedFor m.twinUnit visit' twin) := by
  refine inBlock ((variableType hvisit h _ hkind).bind fun type => ?_)
  refine (visitRole hvisit h .value).discard.bind fun _ => ?_
  refine (declare (h.child? .name) .localVariable type).bind fun _ => ?_
  exact (visitRole hvisit h .body).discard

theorem resource (hkind : site.kind.ordersChildren = true) :
    m.Steps id (Walker.resource m.unit visit site) (Walker.resource m.twinUnit visit' twin) := by
  unfold Walker.resource
  refine (h.child? .name).casesOn (fun hname => ?_) (visitChildren hvisit h)
  refine (variableType hvisit h _ hkind).bind fun type => ?_
  refine (visitRole hvisit h .value).discard.bind fun _ => ?_
  exact declare (.some hname) .localVariable type

theorem lambdaParameters :
    m.Steps id (Walker.lambdaParameters m.unit visit site)
      (Walker.lambdaParameters m.twinUnit visit' twin) := by
  unfold Walker.lambdaParameters
  rw [h.kind_eq]
  refine m.edit.kind_elim site.kind ?_ (visitChildren hvisit h)
  split
  · exact declare (.some h) .parameter none
  · rename_i hkind
    have horders : site.node.ordersChildren = true := Site.ordersChildren_of_kind (hkind ▸ rfl)
    exact .forM_all (h.namedChildren.ordered horders)
      fun hname => declare (.some hname) .parameter none
  · exact visitChildren hvisit h

theorem lambda :
    m.Steps id (Walker.lambda m.unit visit site) (Walker.lambda m.twinUnit visit' twin) := by
  have hbody := (visitRole hvisit h .body).discard
  refine inBlock ?_
  exact (h.child? .parameters).casesOn
    (fun hparameters => (lambdaParameters hvisit hparameters).bind fun _ => hbody) hbody

/-!
# Patterns
-/

theorem typeTest :
    m.Steps id (Walker.typeTest m.unit visit site) (Walker.typeTest m.twinUnit visit' twin) := by
  have hdeclare := declare (h.child? .name) .localVariable
  have hchildren := (h.childrenExcept (.cons (h.child? .name) .nil)).imp_mem
    (fun _ htwins => htwins)
    fun hchild homits => And.intro homits (Site.mem_children_of_mem_childrenExcept hchild)
  refine (visitEach hvisit hchildren fun hidle => ⟨hidle.1.allowed, hidle.1.idle⟩).bind_rel
    (fun _ => (hdeclare _).live) fun hvisited => ?_
  rw [meaningAt_eq h .right hvisited, type_meaning]
  exact hdeclare _

theorem patternPart (type : Option SymbolId) :
    m.Steps (Option.map m.number) (Walker.patternPart m.unit visit type site)
      (Walker.patternPart m.twinUnit visit' (type.map m.number) twin) := by
  have hvisited : m.Steps (Option.map m.number) (visit site >>= fun meaning => pure meaning.type?)
      (visit' twin >>= fun meaning => pure meaning.type?) :=
    (hvisit.twins h).bind fun meaning => .pure_rel (type_meaning meaning)
  simp only [Walker.patternPart, h.kind_eq]
  refine m.edit.kind_elim site.kind ?_ hvisited
  split
  · exact (declare (.some h) .localVariable type).bind fun _ => .pure type
  · exact (hvisit.twins h).discard.bind fun _ => .pure type
  · exact hvisited

theorem typePattern (hkind : site.kind.ordersChildren = true) :
    m.Steps id (Walker.typePattern m.unit visit site)
      (Walker.typePattern m.twinUnit visit' twin) := by
  have hparts := h.namedChildren.ordered (Site.ordersChildren_of_kind hkind)
  exact (Comparison.Steps.foldlM_all hparts (patternPart hvisit ·) none).discard

theorem typeParameter :
    m.Steps id (Walker.typeParameter visit site) (Walker.typeParameter visit' twin) :=
  visitExcept hvisit h (.cons (h.childOfKind? _ rfl) .nil)

end Handlers

end Mirror

end RestrictedApi
