import RestrictedApi.Proofs.Nesting
import RestrictedApi.Proofs.SingleImports
import RestrictedApi.Proofs.WrittenTypes

/-!
# The types of members

The type of a field or method is resolved twice: when the declarations are linked, by its segments,
and when the walk comes to the place where it is written.  Both see the same types around and the
same type parameters, so they differ only for names that start with a package.
-/

namespace RestrictedApi

/-!
# The way to a node
-/

/-- From the first state on, no reference is taken back and the limit of levels is not forgotten. -/
structure Walk.Precedes (first second : Walk) : Prop where
  references : first.references.toList <+: second.references.toList
  tooDeep : second.tooDeep = none → first.tooDeep = none

namespace Walk

variable {first second third : Walk}

theorem Precedes.trans (h : first.Precedes second) (h' : second.Precedes third) :
    first.Precedes third :=
  ⟨h.references.trans h'.references, fun hthird => h.tooDeep (h'.tooDeep hthird)⟩

theorem Onward.precedes (h : first.Onward second) : first.Precedes second :=
  ⟨h.references, h.tooDeep⟩

/-- The current node is directly within types of the program, given by their declarations. -/
structure StandsIn (walk : Walk) (unit : WalkedUnit) (enclosing : List Site) : Prop where
  types : walk.enclosingTypes.map some = enclosing.map fun site => unit.decls.sites[site.path]?
  parameters : walk.typeParameters = []
  muted : walk.muted = 0

theorem StandsIn.onward {unit : WalkedUnit} {enclosing : List Site}
    (h : first.StandsIn unit enclosing) (honward : first.Onward second) :
    second.StandsIn unit enclosing := by
  have hview := honward.view_eq unit.unit
  constructor
  · have htypes : second.enclosingTypes = first.enclosingTypes :=
      congrArg Viewpoint.enclosing hview
    rw [htypes, h.types]
  · have hparameters : second.typeParameters = first.typeParameters :=
      congrArg Viewpoint.parameters hview
    rw [hparameters, h.parameters]
  · exact honward.muted.trans h.muted

end Walk

namespace Walker

variable {α β : Type}

theorem forM_through {items : List β} {step : β → Walker Unit}
    (hsteps : ∀ item, Keeps Walk.Onward (step item)) {item : β} (hitem : item ∈ items)
    (walk : Walk) :
    ∃ middle, walk.Onward middle ∧
      ((step item).run middle).2.Onward ((items.forM step).run walk).2 := by
  induction items generalizing walk with
  | nil => cases hitem
  | cons first rest ih =>
      rcases List.mem_cons.mp hitem with heq | hlater
      · rw [heq]
        exact ⟨walk, Walk.Onward.refl walk, (Walk.conserves_onward default).forM
          (fun other _ => hsteps other) ((step first).run walk).2⟩
      · rcases ih hlater ((step first).run walk).2 with ⟨middle, hbefore, hafter⟩
        exact ⟨middle, (hsteps first walk).trans hbefore, hafter⟩

theorem foldlM_through {items : List β} {step : α → β → Walker α}
    (hsteps : ∀ value item, Keeps Walk.Onward (step value item)) {item : β} (hitem : item ∈ items)
    (start : α) (walk : Walk) :
    ∃ value middle, walk.Onward middle ∧
      ((step value item).run middle).2.Onward ((items.foldlM step start).run walk).2 := by
  induction items generalizing start walk with
  | nil => cases hitem
  | cons first rest ih =>
      rw [List.foldlM_cons]
      rcases List.mem_cons.mp hitem with heq | hlater
      · rw [heq]
        exact ⟨start, walk, Walk.Onward.refl walk,
          (Walk.conserves_onward default).foldlM hsteps _ _⟩
      · rcases ih hlater ((step start first).run walk).1 ((step start first).run walk).2 with
          ⟨value, middle, hbefore, hafter⟩
        exact ⟨value, middle, (hsteps start first walk).trans hbefore, hafter⟩

end Walker

/-- On the way to a final state, a site directly within types is visited. -/
def Walk.ComesTo (unit : WalkedUnit) (final : Walk) (enclosing : List Site) (site : Site) : Prop :=
  ∃ levels before, before.StandsIn unit enclosing ∧
    ((Walker.visit unit levels site).run before).2.Precedes final

/-- On the way to a final state, a site is visited from a viewpoint, and what is found there is
reported. -/
def Walk.SeesFrom (unit : WalkedUnit) (final : Walk) (view : Viewpoint) (site : Site) : Prop :=
  ∃ levels before, before.view unit.unit = view ∧ before.muted = 0 ∧
    ((Walker.visit unit levels site).run before).2.Precedes final

namespace Walk.ComesTo

variable {unit : WalkedUnit} {final : Walk} {enclosing : List Site} {site : Site}

theorem step (h : ComesTo unit final enclosing site) (hfinal : final.tooDeep = none) :
    ∃ below before, before.StandsIn unit enclosing ∧
      ((Walker.step unit (Walker.visit unit below) site).run before).2.Precedes final := by
  rcases h with ⟨levels, before, hstands, hprecedes⟩
  rcases Walker.visit_of_tooDeep_eq_none (hprecedes.tooDeep hfinal) with ⟨below, hrun⟩
  rw [hrun] at hprecedes
  exact ⟨below, before, hstands, hprecedes⟩

theorem child (h : ComesTo unit final enclosing site) (hfinal : final.tooDeep = none)
    (hkind : site.kind.isContainer = true) {child : Site} (hchild : child ∈ site.namedChildren) :
    ComesTo unit final enclosing child := by
  rcases h.step hfinal with ⟨below, before, hstands, hprecedes⟩
  rw [Walker.step_of_isContainer hkind] at hprecedes
  rcases Walker.forM_through (fun other => Conserves.discard (onward_visits unit below other))
    hchild before with ⟨middle, hbefore, hafter⟩
  exact ⟨below, middle, hstands.onward hbefore, hafter.precedes.trans hprecedes⟩

theorem part (h : ComesTo unit final enclosing site) (hfinal : final.tooDeep = none)
    (hkind : site.kind.isTypeDeclaration = true) {id : SymbolId}
    (hid : unit.decls.sites[site.path]? = some id) {part : Site}
    (hpart : part ∈ site.childrenExcept [site.child? .name]) :
    ∃ below before, before.StandsIn unit (site :: enclosing) ∧
      ((Walker.typeDeclarationPart (Walker.visit unit below) part).run before).2.Precedes
        final := by
  rcases h.step hfinal with ⟨below, before, hstands, hprecedes⟩
  rw [Walker.step_of_isTypeDeclaration hkind, Walker.typeDeclaration, Walker.enclosingOf, hid]
    at hprecedes
  let inside : Walk := { before with
    suppressions := (before.silenced ++ site.suppressedWarnings) :: before.suppressions
    enclosing := .declared id :: before.enclosing
    blocks := {} :: before.blocks }
  have hinside : inside.StandsIn unit (site :: enclosing) := by
    refine ⟨?_, hstands.parameters, hstands.muted⟩
    change some id :: before.enclosingTypes.map some = (site :: enclosing).map _
    rw [hstands.types, List.map_cons, hid]
  have hparts (part : Site) : Walker.Keeps Onward
      (Walker.typeDeclarationPart (Walker.visit unit below) part) :=
    (conserves_onward unit).of_whole (Runs.typeDeclarationPart (onward_visits unit below).sound)
  rcases Walker.forM_through hparts hpart inside with ⟨middle, hbefore, hafter⟩
  refine ⟨below, middle, hinside.onward hbefore, hafter.precedes.trans ?_⟩
  exact ⟨hprecedes.references, hprecedes.tooDeep⟩

theorem body (h : ComesTo unit final enclosing site) (hfinal : final.tooDeep = none)
    (hkind : site.kind.isTypeDeclaration = true) {id : SymbolId}
    (hid : unit.decls.sites[site.path]? = some id) {body : Site}
    (hbody : body ∈ site.childrenExcept [site.child? .name])
    (hcontainer : body.kind.isContainer = true) : ComesTo unit final (site :: enclosing) body := by
  rcases h.part hfinal hkind hid hbody with ⟨below, before, hstands, hprecedes⟩
  have hplain : ¬ body.kind = .formalParameters := by
    intro hformal
    rw [hformal] at hcontainer
    cases hcontainer
  rw [Walker.typeDeclarationPart, if_neg hplain] at hprecedes
  exact ⟨below, before, hstands, hprecedes⟩

end Walk.ComesTo

/-!
# The types of members in place
-/

/-- The kinds of types that members are declared with: names, and what has no name. -/
def NodeKind.isMemberType : NodeKind → Bool
  | .typeIdentifier | .scopedTypeIdentifier | .genericType | .other => true
  | _ => false

/-- A member is declared with a type, which is to be seen from a viewpoint: from within the types
around the member, with its own type parameters in scope. -/
structure Declaration.TypedAt (declaration : Declaration) (unit : WalkedUnit) (type : Site)
    (view : Viewpoint) : Prop where
  kind : declaration.kind = .field ∨ declaration.kind = .method
  written : declaration.holder.child? .type = some type
  typeKind : type.kind.isMemberType = true
  number : view.unit = unit.unit
  enclosing : declaration.enclosing.map (fun site => unit.decls.sites[site.path]?) =
    view.enclosing.map some
  member : ∃ id member, unit.decls.sites[declaration.site.path]? = some id ∧
    unit.decls.members[id]? = some member ∧ view.parameters = member.typeParameters.reverse ∧
    (declaration.kind = .field → member.typeParameters = [])

namespace Declaration.TypedAt

variable {declaration : Declaration} {unit : WalkedUnit} {type : Site} {view : Viewpoint}

theorem kind_cases (h : declaration.TypedAt unit type view) {kind : SymbolKind}
    (hkind : declaration.kind = kind) : kind = .field ∨ kind = .method := by
  rw [← hkind]
  exact h.kind

theorem isType_eq_false (h : declaration.TypedAt unit type view) :
    declaration.kind.isType = false := by
  rcases h.kind with hkind | hkind <;> rw [hkind] <;> rfl

theorem parameters_of_field (h : declaration.TypedAt unit type view)
    (hkind : declaration.kind = .field) : view.parameters = [] := by
  rcases h.member with ⟨id, member, _, _, hparameters, hfield⟩
  rw [hparameters, hfield hkind]
  rfl

theorem mem_childrenExcept (h : declaration.TypedAt unit type view)
    (hcounts : type.node.counts = true) :
    type ∈ declaration.holder.childrenExcept [declaration.holder.child? .name] := by
  apply Site.mem_childrenExcept_name (Site.mem_children_of_child? h.written) ?_ hcounts
  rw [Site.role_of_child? h.written]
  decide

theorem view_eq (h : declaration.TypedAt unit type view) {walk : Walk}
    (htypes : walk.enclosingTypes.map some =
      declaration.enclosing.map fun site => unit.decls.sites[site.path]?)
    (hparameters : walk.typeParameters = view.parameters) : walk.view unit.unit = view := by
  have henclosing : walk.enclosingTypes = view.enclosing :=
    (List.map_inj_right fun _ _ => Option.some.inj).mp (htypes.trans h.enclosing)
  unfold Walk.view
  rw [henclosing, hparameters, ← h.number]

theorem field (h : declaration.TypedAt unit type view) (hcounts : type.node.counts = true)
    {final : Walk} (hfinal : final.tooDeep = none) (hfield : declaration.kind = .field)
    (hkind : declaration.holder.kind = .fieldDeclaration ∨
      declaration.holder.kind = .constantDeclaration)
    (hcomes : Walk.ComesTo unit final declaration.enclosing declaration.holder) :
    Walk.SeesFrom unit final view type := by
  rcases hcomes.step hfinal with ⟨below, before, hstands, hprecedes⟩
  have hstep : Walker.step unit (Walker.visit unit below) declaration.holder =
      Walker.silent (Walker.fieldDeclaration (Walker.visit unit below) declaration.holder) := by
    unfold Walker.step
    rcases hkind with hkind | hkind <;> rw [hkind]
  rw [hstep] at hprecedes
  let inside : Walk := { before with
    suppressions := (before.silenced ++ declaration.holder.suppressedWarnings) ::
      before.suppressions }
  have hinside : inside.StandsIn unit declaration.enclosing :=
    ⟨hstands.types, hstands.parameters, hstands.muted⟩
  have hchild : type ∈ declaration.holder.namedChildren :=
    List.mem_filter.mpr ⟨Site.mem_children_of_child? h.written, hcounts⟩
  rcases Walker.forM_through
    (fun other => Walk.Conserves.discard (Walk.onward_visits unit below other)) hchild inside with
    ⟨middle, hbefore, hafter⟩
  have hmiddle := hinside.onward hbefore
  refine ⟨below, middle, ?_, hmiddle.muted, hafter.precedes.trans ?_⟩
  · exact h.view_eq hmiddle.types (hmiddle.parameters.trans (h.parameters_of_field hfield).symm)
  · exact ⟨hprecedes.references, hprecedes.tooDeep⟩

theorem method (h : declaration.TypedAt unit type view) (hcounts : type.node.counts = true)
    {final : Walk} (hfinal : final.tooDeep = none) (hown : declaration.site = declaration.holder)
    (hkind : declaration.holder.kind = .methodDeclaration ∨
      declaration.holder.kind = .annotationElementDeclaration)
    (hcomes : Walk.ComesTo unit final declaration.enclosing declaration.holder) :
    Walk.SeesFrom unit final view type := by
  rcases hcomes.step hfinal with ⟨below, before, hstands, hprecedes⟩
  have hstep : Walker.step unit (Walker.visit unit below) declaration.holder = Walker.silent
      (Walker.methodDeclaration unit (Walker.visit unit below) declaration.holder) := by
    unfold Walker.step
    rcases hkind with hkind | hkind <;> rw [hkind]
  rw [hstep] at hprecedes
  rcases h.member with ⟨id, member, hid, hmember, hparameters, _⟩
  let outside : Walk := { before with
    suppressions := (before.silenced ++ declaration.holder.suppressedWarnings) ::
      before.suppressions }
  have hfound : (unit.decls.sites[declaration.holder.path]?.bind fun id =>
      unit.decls.members[id]?) = some member := by
    rw [← hown, hid]
    exact hmember
  let inside : Walk := ((Walker.openTypeParameters unit declaration.holder).run
    { outside with blocks := {} :: outside.blocks }).2
  have hopens : inside = { outside with
      blocks := { typeParameters := member.typeParameters.reverse } :: outside.blocks } :=
    outside.openTypeParameters_run hfound
  rcases Walker.forM_through
    (fun other => Walk.Conserves.discard (Walk.onward_visits unit below other))
    (h.mem_childrenExcept hcounts) inside with ⟨middle, hbefore, hafter⟩
  refine ⟨below, middle, ?_, ?_, hafter.precedes.trans ?_⟩
  · rw [hbefore.view_eq]
    apply h.view_eq
    · unfold Walk.enclosingTypes
      rw [hopens]
      exact hstands.types
    · unfold Walk.typeParameters
      rw [hopens, List.flatMap_cons, hparameters]
      change _ ++ before.typeParameters = _
      rw [hstands.parameters, List.append_nil]
  · exact hbefore.muted.trans ((congrArg Walk.muted hopens).trans hstands.muted)
  · exact ⟨hprecedes.references, hprecedes.tooDeep⟩

theorem parameterPart_run {visit : Visit} (hkind : type.kind.isMemberType = true)
    (value : Option SymbolId) (walk : Walk) :
    ((Walker.parameterPart visit Walker.isParameterName value type).run walk).2 =
      ((visit type).run walk).2 := by
  have hkinds : Walker.isParameterName type.kind = false ∧ type.kind ≠ .modifiers ∧
      type.kind ≠ .catchType := by
    revert hkind
    cases type.kind <;> decide
  rw [Walker.parameterPart, hkinds.1, if_neg Bool.false_ne_true, if_neg hkinds.2.1,
    if_neg hkinds.2.2]
  rfl

theorem component (h : declaration.TypedAt unit type view) (hcounts : type.node.counts = true)
    {final : Walk} (hfield : declaration.kind = .field) {list : Site}
    (hkind : list.kind = .formalParameters)
    (hcomponent : declaration.holder ∈ list.namedChildren)
    (hcomes : ∃ below before, before.StandsIn unit declaration.enclosing ∧
      ((Walker.typeDeclarationPart (Walker.visit unit below) list).run before).2.Precedes final) :
    Walk.SeesFrom unit final view type := by
  rcases hcomes with ⟨below, before, hstands, hprecedes⟩
  rw [Walker.typeDeclarationPart, if_pos hkind] at hprecedes
  have honward := Walk.conserves_onward unit
  have hvisits := Walk.onward_visits unit below
  have hcomponents (component : Site) : Walker.Keeps Walk.Onward
      (discard (Walker.parameterType (Walker.visit unit below) component)) :=
    honward.of_runs (Runs.discard (Runs.parameterType hvisits.sound))
  rcases Walker.forM_through hcomponents hcomponent before with ⟨start, hstart, hend⟩
  have hparts (type : Option SymbolId) (part : Site) : Walker.Keeps Walk.Onward
      (Walker.parameterPart (Walker.visit unit below) Walker.isParameterName type part) :=
    honward.of_whole (Runs.parameterPart hvisits.sound _ type)
  rcases Walker.foldlM_through hparts (h.mem_childrenExcept hcounts) none start with
    ⟨value, middle, hbefore, hafter⟩
  rw [parameterPart_run h.typeKind] at hafter
  have hmiddle := (hstands.onward hstart).onward hbefore
  refine ⟨below, middle, ?_, hmiddle.muted, ?_⟩
  · exact h.view_eq hmiddle.types (hmiddle.parameters.trans (h.parameters_of_field hfield).symm)
  · exact hafter.precedes.trans (hend.precedes.trans hprecedes)

end Declaration.TypedAt

/-!
# All members
-/

/-- The bodies of types only hold other nodes, the components of a record are a list of parameters,
and types count. -/
def Node.holdsMembers (parent : Option Node) (node : Node) : Bool :=
  node.holdsPlainly parent && (node.role ≠ some .type || node.counts) &&
    parent.all fun parent =>
      !(parent.kind = .recordDeclaration && node.role = some .parameters) ||
        (node.counts && node.kind = .formalParameters)

theorem Site.counts_of_type {site type : Site} {parent : Option Node}
    (hshape : site.node.everywhere Node.holdsMembers parent = true)
    (htype : site.child? .type = some type) : type.node.counts = true := by
  have hbelow := everywhere_of_mem_children hshape (mem_children_of_child? htype)
  have htest := ((Node.everywhere_iff _ _ _).mp hbelow).1
  simp only [Node.holdsMembers, Bool.and_eq_true] at htest
  simpa [role_of_child? htype] using htest.1.2

structure Walk.Enters (unit : WalkedUnit) (final : Walk) (enclosing : List Site)
    (parent : Option Node) (site : Site) : Prop where
  comes : ComesTo unit final enclosing site
  shape : site.node.everywhere Node.holdsMembers parent = true

namespace Walk.Enters

variable {unit : WalkedUnit} {final : Walk} {enclosing : List Site} {parent : Option Node}
variable {site part : Site}

theorem test (h : Enters unit final enclosing parent site) (hpart : part ∈ site.children) :
    part.node.holdsMembers (some site.node) = true :=
  ((Node.everywhere_iff _ _ _).mp (Site.everywhere_of_mem_children h.shape hpart)).1

theorem child (h : Enters unit final enclosing parent site) (hfinal : final.tooDeep = none)
    (hkind : site.kind.isContainer = true) (hpart : part ∈ site.children)
    (hcounts : part.node.counts = true) :
    Enters unit final enclosing (some site.node) part where
  comes := h.comes.child hfinal hkind (List.mem_filter.mpr ⟨hpart, hcounts⟩)
  shape := Site.everywhere_of_mem_children h.shape hpart

theorem body (h : Enters unit final enclosing parent site) (hfinal : final.tooDeep = none)
    (hkind : site.kind.isTypeDeclaration = true) {id : SymbolId}
    (hid : unit.decls.sites[site.path]? = some id) (hpart : part ∈ site.children)
    (hrole : part.node.role = some .body) :
    part.kind.isContainer = true ∧
      Enters unit final (site :: enclosing) (some site.node) part := by
  have hplain : part.node.counts = true ∧ part.kind.isContainer = true := by
    have htest := h.test hpart
    simp only [Node.holdsMembers, Bool.and_eq_true] at htest
    change site.node.kind.isTypeDeclaration = true at hkind
    simpa [Site.kind, Node.holdsPlainly, hkind, hrole] using htest.1.1
  have hbody := Site.mem_childrenExcept_name hpart (by simp [hrole]) hplain.1
  exact ⟨hplain.2, h.comes.body hfinal hkind hid hbody hplain.2,
    Site.everywhere_of_mem_children h.shape hpart⟩

theorem components (h : Enters unit final enclosing parent site)
    (hkind : site.kind = .recordDeclaration) (hpart : part ∈ site.children)
    (hrole : part.node.role = some .parameters) :
    part ∈ site.childrenExcept [site.child? .name] ∧ part.kind = .formalParameters := by
  have hlist : part.node.counts = true ∧ part.kind = .formalParameters := by
    have htest := h.test hpart
    simp only [Node.holdsMembers, Bool.and_eq_true] at htest
    change site.node.kind = _ at hkind
    simpa [Site.kind, hkind, hrole] using htest.2
  exact ⟨Site.mem_childrenExcept_name hpart (by simp [hrole]) hlist.1, hlist.2⟩

end Walk.Enters

namespace Declaration

variable {unit : WalkedUnit} {final : Walk} {type : Site} {view : Viewpoint}
variable {declaration : Declaration}

theorem enclosing_of_mem_ofNamed {enclosing : List Site} {kind : SymbolKind} {site : Site}
    (h : declaration ∈ ofNamed enclosing kind site) : declaration.enclosing = enclosing := by
  rcases List.mem_map.mp h with ⟨nameSite, _, rfl⟩
  rfl

theorem holder_of_mem_ofFields {enclosing : List Site} {site : Site}
    (h : declaration ∈ ofFields enclosing site) :
    declaration.enclosing = enclosing ∧ declaration.holder = site := by
  rcases List.mem_flatMap.mp h with ⟨declarator, _, hnamed⟩
  rcases List.mem_map.mp hnamed with ⟨nameSite, _, rfl⟩
  exact ⟨rfl, rfl⟩

theorem TypedAt.of_mem_ofFields (h : declaration.TypedAt unit type view)
    (hfinal : final.tooDeep = none) {enclosing : List Site} {site : Site} {parent : Option Node}
    (hmem : declaration ∈ ofFields enclosing site)
    (hkind : site.kind = .fieldDeclaration ∨ site.kind = .constantDeclaration)
    (henters : Walk.Enters unit final enclosing parent site) :
    Walk.SeesFrom unit final view type := by
  rcases holder_of_mem_ofFields hmem with ⟨henclosing, hholder⟩
  have hfield := kind_of_mem_ofFields hmem
  rw [← hholder] at hkind henters
  rw [← henclosing] at henters
  exact h.field (Site.counts_of_type henters.shape h.written) hfinal hfield hkind henters.comes

theorem TypedAt.of_mem_ofNamed (h : declaration.TypedAt unit type view)
    (hfinal : final.tooDeep = none) {enclosing : List Site} {site : Site} {parent : Option Node}
    (hmem : declaration ∈ ofNamed enclosing .method site)
    (hkind : site.kind = .methodDeclaration ∨ site.kind = .annotationElementDeclaration)
    (henters : Walk.Enters unit final enclosing parent site) :
    Walk.SeesFrom unit final view type := by
  rcases own_of_mem_ofNamed hmem with ⟨hsite, hholder⟩
  rw [← hholder] at hkind henters hsite
  rw [← enclosing_of_mem_ofNamed hmem] at henters
  exact h.method (Site.counts_of_type henters.shape h.written) hfinal hsite hkind henters.comes

theorem TypedAt.of_mem_ofComponents (h : declaration.TypedAt unit type view)
    (hfinal : final.tooDeep = none) {enclosing : List Site} {site : Site} {parent : Option Node}
    (hmem : declaration ∈ ofComponents (site :: enclosing) site)
    (hkind : site.kind = .recordDeclaration) {id : SymbolId}
    (hid : unit.decls.sites[site.path]? = some id)
    (henters : Walk.Enters unit final enclosing parent site) :
    Walk.SeesFrom unit final view type := by
  rcases List.mem_flatMap.mp hmem with ⟨component, hcomponent, hnamed⟩
  cases hlist : site.child? .parameters with
  | none =>
      rw [hlist] at hcomponent
      cases hcomponent
  | some list =>
      rw [hlist] at hcomponent
      have hcomponent : component ∈ list.namedChildren := hcomponent
      have hlistChild := Site.mem_children_of_child? hlist
      rcases henters.components hkind hlistChild (Site.role_of_child? hlist) with
        ⟨hpart, hlistKind⟩
      have hshape := Site.everywhere_of_mem_children
        (Site.everywhere_of_mem_children henters.shape hlistChild)
        (Site.mem_children_of_mem_namedChildren hcomponent)
      rw [← (own_of_mem_ofNamed hnamed).2] at hcomponent hshape
      apply h.component (Site.counts_of_type hshape h.written) (kind_of_mem_ofNamed hnamed)
        hlistKind hcomponent
      · rw [enclosing_of_mem_ofNamed hnamed]
        exact henters.comes.part hfinal (by rw [hkind]; rfl) hid hpart

mutual

/-- The walk comes to the type of every member that a node declares. -/
theorem sees_of_mem_inNode (hfinal : final.tooDeep = none) {enclosing : List Site} {path : Path}
    {parent : Option Node} (node : Node)
    (henters : Walk.Enters unit final enclosing parent ⟨path, node⟩)
    (hknown : ∀ found, found ∈ inNode enclosing path node → found.kind.isType = true →
      ∃ id, unit.decls.sites[found.site.path]? = some id)
    (hmem : declaration ∈ inNode enclosing path node) (h : declaration.TypedAt unit type view) :
    Walk.SeesFrom unit final view type := by
  cases node with
  | mk kind named role line column offset length text children =>
      rw [inNode.eq_def] at hmem hknown
      dsimp only at hmem hknown
      by_cases hkind : kind.isTypeDeclaration = true
      · rw [if_pos hkind] at hmem hknown
        cases hname : Site.child? ⟨path, _⟩ .name with
        | none =>
            rw [hname] at hmem
            cases hmem
        | some nameSite =>
            rw [hname] at hmem hknown
            have htype := Collector.Keeps.isType_typeKind kind
            rcases hknown _ List.mem_cons_self htype with ⟨id, hid⟩
            rcases List.mem_cons.mp hmem with heq | hbelow
            · have hother := h.isType_eq_false
              rw [heq] at hother
              cases htype.symm.trans hother
            · rcases List.mem_append.mp hbelow with hcomponent | hmember
              · split at hcomponent
                · rename_i hrecord
                  exact h.of_mem_ofComponents hfinal hcomponent hrecord hid henters
                · cases hcomponent
              · refine sees_of_mem_inBody hfinal children ?_ ?_ hmember h
                · intro body hbody hrole
                  rcases henters.body hfinal hkind hid hbody hrole with ⟨hcontainer, hinner⟩
                  exact ⟨hcontainer, _, hinner⟩
                · intro found hfound
                  exact hknown found (List.mem_cons_of_mem _ (List.mem_append_right _ hfound))
      · rw [if_neg hkind] at hmem hknown
        split at hmem
        · cases hmem
        · refine sees_of_mem_inNodes hfinal children ?_ hknown hmem h
          intro child hchild hcounts
          exact ⟨_, henters.child hfinal rfl hchild hcounts⟩
        · exact absurd (h.kind_cases (kind_of_mem_ofNamed hmem)) (by decide)
        · exact h.of_mem_ofFields hfinal hmem (Or.inl rfl) henters
        · exact h.of_mem_ofFields hfinal hmem (Or.inr rfl) henters
        · exact h.of_mem_ofNamed hfinal hmem (Or.inl rfl) henters
        · exact h.of_mem_ofNamed hfinal hmem (Or.inr rfl) henters
        · exact absurd (h.kind_cases (congrArg Declaration.kind (List.mem_singleton.mp hmem)))
            (by simp)
        · exact absurd (h.kind_cases (congrArg Declaration.kind (List.mem_singleton.mp hmem)))
            (by simp)
        · cases hmem

theorem sees_of_mem_inBody (hfinal : final.tooDeep = none) {enclosing : List Site} {path : Path}
    {index : Nat} (nodes : List Node)
    (henters : ∀ body, body ∈ Site.number path index nodes → body.node.role = some .body →
      body.kind.isContainer = true ∧ ∃ parent, Walk.Enters unit final enclosing parent body)
    (hknown : ∀ found, found ∈ inBody enclosing path index nodes → found.kind.isType = true →
      ∃ id, unit.decls.sites[found.site.path]? = some id)
    (hmem : declaration ∈ inBody enclosing path index nodes)
    (h : declaration.TypedAt unit type view) : Walk.SeesFrom unit final view type := by
  cases nodes with
  | nil =>
      rw [inBody] at hmem
      cases hmem
  | cons node rest =>
      cases node with
      | mk kind named role line column offset length text members =>
          rw [inBody] at hmem hknown
          by_cases hrole : role = some .body
          · rw [if_pos hrole] at hmem hknown
            rcases henters _ List.mem_cons_self hrole with ⟨hcontainer, parent, hbody⟩
            refine sees_of_mem_inNodes hfinal members ?_ hknown hmem h
            intro child hchild hcounts
            exact ⟨_, hbody.child hfinal hcontainer hchild hcounts⟩
          · rw [if_neg hrole] at hmem hknown
            exact sees_of_mem_inBody hfinal rest
              (fun body hbody => henters body (List.mem_cons_of_mem _ hbody)) hknown hmem h

theorem sees_of_mem_inNodes (hfinal : final.tooDeep = none) {enclosing : List Site} {path : Path}
    {index : Nat} (nodes : List Node)
    (henters : ∀ child, child ∈ Site.number path index nodes → child.node.counts = true →
      ∃ parent, Walk.Enters unit final enclosing parent child)
    (hknown : ∀ found, found ∈ inNodes enclosing path index nodes → found.kind.isType = true →
      ∃ id, unit.decls.sites[found.site.path]? = some id)
    (hmem : declaration ∈ inNodes enclosing path index nodes)
    (h : declaration.TypedAt unit type view) : Walk.SeesFrom unit final view type := by
  cases nodes with
  | nil =>
      rw [inNodes] at hmem
      cases hmem
  | cons node rest =>
      rw [inNodes] at hmem hknown
      rcases List.mem_append.mp hmem with hhere | hlater
      · split at hhere
        · rename_i hcounts
          rcases henters _ List.mem_cons_self hcounts with ⟨parent, hnode⟩
          refine sees_of_mem_inNode hfinal node hnode ?_ hhere h
          intro found hfound
          apply hknown found (List.mem_append_left _ ?_)
          rw [if_pos hcounts]
          exact hfound
        · cases hhere
      · exact sees_of_mem_inNodes hfinal rest
          (fun child hchild => henters child (List.mem_cons_of_mem _ hchild))
          (fun found hfound => hknown found (List.mem_append_right _ hfound)) hlater h

end

end Declaration

/-!
# Linked members
-/

namespace Declarations

theorem members_linkSupertypes (decls : Declarations) :
    decls.linkSupertypes.members = decls.members := by
  unfold linkSupertypes
  generalize decls.types.keys = ids
  induction ids generalizing decls with
  | nil => rfl
  | cons id rest ih =>
      have htype : (decls.linkType id).members = decls.members := by
        unfold linkType
        split <;> rfl
      rw [List.foldl_cons, ih, htype]

theorem Alike.typeOf_eq {first second : Declarations} (h : first.Alike second) (view : Viewpoint)
    (name : DottedName) : second.typeOf? view name = first.typeOf? view name := by
  apply h.symm.typeOf_eq
  intro lookup _
  apply h.symm.memberType_eq
  intro other _
  unfold supertypes
  rw [h.same]

theorem linkMember_eq (decls : Declarations) {member : MemberDecl} {owner : TypeDecl}
    (howner : decls.types[member.owner]? = some owner) (hvalue : member.valueType = none) :
    decls.linkMember member = { member with
      valueType := member.declaredType.bind (decls.typeOf?
        { unit := owner.unit, enclosing := decls.enclosingChain member.owner
          parameters := member.typeParameters.reverse }) } := by
  unfold linkMember
  rw [howner]
  cases hdeclared : member.declaredType with
  | none =>
      cases member
      cases hvalue
      cases hdeclared
      rfl
  | some name => rfl

end Declarations

theorem Collected.members_link (collected : Collected) (id : SymbolId) :
    collected.link.decls.members[id]? = collected.decls.members[id]?.map
      collected.decls.linkSupertypes.linkSupertypes.linkMember := by
  have hmap : ∀ decls : Declarations,
      (decls.linkMembers.withPending #[]).members[id]? = decls.members[id]?.map decls.linkMember :=
    fun decls => Std.TreeMap.getElem?_map
  refine (hmap _).trans ?_
  rw [Declarations.members_linkSupertypes, Declarations.members_linkSupertypes]

namespace Program

variable {units : List SourceUnit} (history : List Nat)

theorem members_after (id : SymbolId) :
    ((ofUnits units).after history).decls.members[id]? =
      (collected units).decls.members[id]?.map
        (linkedOnce units).linkSupertypes.linkMember := by
  rw [decls_after, decls_ofUnits]
  exact (collected units).members_link id

/-- What is known of a declared field or method: its record, the types around it, and what its type
as written is linked to. -/
structure Signed (program : Program) (number : Nat) (declaration : Declaration) (id : SymbolId)
    (member : MemberDecl) (view : Viewpoint) : Prop where
  numbered : program.decls.sites[declaration.site.path]? = some id
  recorded : program.decls.members[id]? = some member
  unit : view.unit = number
  enclosing : declaration.enclosing.map (fun site => program.decls.sites[site.path]?) =
    view.enclosing.map some
  parameters : view.parameters = member.typeParameters.reverse
  field : declaration.kind = .field → member.typeParameters = []
  linked : member.valueType =
    (Collector.declaredType? declaration.holder).bind (program.decls.typeOf? view)

theorem owner_of_entry {number : Nat} {root : Node} {unit : CollectingUnit} {entries : List Entry}
    (hunit : (collected units).HoldsUnit number root unit entries)
    (hroot : (units.map (·.root))[number]? = some root) {entry : Entry} (hentry : entry ∈ entries)
    {declaration : Declaration} (hdeclaration : entry.declaration = some declaration)
    (hkind : declaration.kind = .field ∨ declaration.kind = .method) :
    ∃ owner decl, entry.symbol.owner = some owner ∧ entry.chain.head? = some owner ∧
      (collected units).decls.types[owner]? = some decl ∧ decl.unit = number := by
  cases hunit.placed hentry with
  | type outer found _ hfound _ _ htype _ =>
      rw [hdeclaration] at hfound
      cases hfound
      rcases hkind with hkind | hkind <;> rw [hkind] at htype <;> cases htype
  | member outer name kind houter htype _ _ hchain _ hsymbol =>
      rcases htype.2 with ⟨around, haround⟩
      have hmem := hunit.mem_inUnit.mpr ⟨outer, houter, haround⟩
      have hkindAround : around.kind.isType = true := by
        rw [← (hunit.symbol_eq houter haround).2]
        exact htype.1
      rcases ((complete_collected units).signed hroot around hmem).type hkindAround with
        ⟨id, hsite, _, hdecl⟩
      rw [(hunit.holds houter).site haround] at hsite
      rw [← Option.some.inj hsite] at hdecl
      rcases Option.map_eq_some_iff.mp hdecl with ⟨decl, hdecl, hnumber⟩
      refine ⟨outer.id, decl, ?_, ?_, hdecl, hnumber⟩
      · rw [hsymbol]
      · rw [hchain]
        rfl
  | typeParameter name owner _ hnone _ =>
      rw [hdeclaration] at hnone
      cases hnone

theorem signed_of_mem {number : Nat} {source : SourceUnit} (hsource : units[number]? = some source)
    {declaration : Declaration} (hdeclaration : declaration ∈ Declaration.inUnit number source.root)
    (hkind : declaration.kind = .field ∨ declaration.kind = .method) :
    ∃ id member view, ((ofUnits units).after history).Signed number declaration id member view := by
  have hroot := root_of_source hsource
  rcases Collected.tells_ofUnits (units.map (·.root)) with ⟨ledger, htells⟩
  change (collected units).Tells _ _ at htells
  rcases htells.unit_of hroot with ⟨unit, entries, _, hunit⟩
  rcases hunit.mem_inUnit.mp hdeclaration with ⟨entry, hentry, hfound⟩
  rcases declares_of_entry history hunit hentry hfound with ⟨_, hdeclares⟩
  rcases owner_of_entry hunit hroot hentry hfound hkind with
    ⟨owner, decl, hentryOwner, hhead, hdecl, hnumber⟩
  rcases ((complete_collected units).signed hroot declaration hdeclaration).member hkind with
    ⟨id, member, symbol, hsite, hmember, hsymbol, howner, hdeclared, hvalue, hfield⟩
  rw [(hunit.holds hentry).site hfound] at hsite
  cases hsite
  rw [(hunit.holds hentry).symbol] at hsymbol
  cases hsymbol
  rw [hentryOwner] at howner
  cases howner
  -- The owner as it stands when members are linked.
  let linked := (linkedOnce units).linkSupertypes
  have hrelinks : (collected units).decls.Relinks linked :=
    (Declarations.relinks_linkSupertypes _).trans (Declarations.relinks_linkSupertypes _)
  have hsame := hrelinks.types member.owner
  rw [hdecl] at hsame
  rcases Option.map_eq_some_iff.mp hsame with ⟨around, haround, hunlinked⟩
  have hunitAround : around.unit = number :=
    (congrArg TypeDecl.unit hunlinked).trans hnumber
  have halike := alike_ofUnits units
  have hchain : linked.enclosingChain member.owner = entry.chain := by
    have hcontext := hdeclares.context
    rw [hhead, decls_after] at hcontext
    exact (halike.toRelinks.enclosingChain_eq member.owner).symm.trans hcontext
  have hlink := linked.linkMember_eq haround hvalue
  refine ⟨entry.id, linked.linkMember member,
    { unit := number, enclosing := entry.chain, parameters := member.typeParameters.reverse },
    hdeclares.numbered, ?_, rfl, hdeclares.enclosing, ?_, ?_, ?_⟩
  · rw [members_after, hmember]
    rfl
  · rw [hlink]
  · rw [hlink]
    exact hfield
  · have htypeOf : (ofUnits units).decls.typeOf? = linked.typeOf? :=
      funext fun view => funext fun name => halike.typeOf_eq view name
    rw [hlink, hdeclared, hchain, hunitAround, decls_after, htypeOf]

end Program

/-!
# Names that start with a package
-/

namespace Declarations.Named

variable {decls : Declarations} {table : SymbolTable}

theorem memberTypes (h : decls.Named table) {start id : SymbolId} {segments : DottedName}
    (hstart : ∃ symbol, table.get? start = some symbol ∧ symbol.kind.isType = true)
    (hid : decls.memberTypes? start segments = some id) :
    ∃ symbol, table.get? id = some symbol ∧ symbol.kind.isType = true := by
  induction segments generalizing start with
  | nil =>
      rw [← Option.some.inj hid]
      exact hstart
  | cons segment rest ih =>
      rcases Option.bind_eq_some_iff.mp hid with ⟨next, hnext, hrest⟩
      exact ih (h.memberType hnext) hrest

theorem fromPackage (h : decls.Named table) {package : String} {id : SymbolId}
    {segments : DottedName} (hid : decls.fromPackage? package segments = some id) :
    ∃ symbol, table.get? id = some symbol ∧ symbol.kind.isType = true := by
  induction segments generalizing package with
  | nil => cases hid
  | cons segment rest ih =>
      rw [fromPackage?] at hid
      cases htype : decls.packageType? package segment with
      | some type =>
          rw [htype] at hid
          rcases h.inPackage htype with ⟨symbol, hsymbol, hkind, _⟩
          exact h.memberTypes ⟨symbol, hsymbol, hkind⟩ hid
      | none =>
          rw [htype] at hid
          rcases Option.bind_eq_some_iff.mp hid with ⟨_, _, hrest⟩
          exact ih hrest

theorem throughPackages (h : decls.Named table) {id : SymbolId} {segments : DottedName}
    (hid : decls.throughPackages? segments = some id) :
    ∃ symbol, table.get? id = some symbol ∧ symbol.kind.isType = true := by
  cases segments with
  | nil => cases hid
  | cons first rest =>
      rcases Option.bind_eq_some_iff.mp hid with ⟨_, _, hrest⟩
      exact h.fromPackage hrest

end Declarations.Named

/-- If the first segment is no type but leads to one through packages, the name as a whole is looked
up by its text. -/
theorem Declarations.typeOf_eq_typeNamed {decls : Declarations} {view : Viewpoint}
    {name : TypeName} {id : SymbolId} (hhead : decls.simpleType? view name.head = none)
    (hid : decls.throughPackages? name.segments = some id) :
    decls.typeOf? view name.segments = decls.typeNamed? name.segments := by
  have htail : name.tail ≠ [] := by
    intro htail
    rw [TypeName.segments, htail, throughPackages_singleton] at hid
    cases hid
  rw [TypeName.segments, typeOf?, hhead]
  exact if_neg htail

/-!
# Linking and the walk
-/

namespace Program

/-- On the walk over a unit, a site is visited from a viewpoint and found to denote something. -/
def Finds (program : Program) (number : Nat) (source : SourceUnit) (view : Viewpoint) (site : Site)
    (meaning : Meaning) : Prop :=
  ∃ levels before, before.view number = view ∧
    ((Walker.visit (program.walkedUnit number source) levels site).run before).1 = meaning ∧
    ((Walker.visit (program.walkedUnit number source) levels site).run before).2.Precedes
      (program.walk number source)

/-- How the type that a member is declared with is resolved: in place, on the walk over its unit,
and to `linked`, when declarations are linked. -/
structure Resolves (program : Program) (number : Nat) (source : SourceUnit) (view : Viewpoint)
    (type : Site) (name : TypeName) (last : Site) (linked : Option SymbolId) : Prop where
  inPlace : program.Finds number source view type (program.decls.meaning view name)
  /-- The reference at the last segment of the name is to what the name denotes. -/
  reported : name.isInferred = false → ∃ reference,
    reference ∈ (program.walk number source).references.toList ∧ reference.path = last.path ∧
      reference.usage.target = program.decls.denoted? (program.decls.meaning view name)
  agrees : linked = (program.decls.meaning view name).type? ↔ program.decls.Agree view name
  /-- A name that leads to a type through packages is linked to this type only if it is the dotted
  name of the type, and is so if no other type has the dotted name. -/
  qualified : ∀ found, program.decls.simpleType? view name.head = none → name.qualifies = true →
    program.decls.throughPackages? name.segments = some found →
      (program.decls.meaning view name).type? = some found ∧
      ∃ symbol, program.table.get? found = some symbol ∧ symbol.kind.isType = true ∧
        (linked = some found → symbol.qualifiedName = name.segments.toText) ∧
        (symbol.qualifiedName = name.segments.toText →
          (∀ other same, program.table.get? other = some same → same.kind.isType = true →
            same.qualifiedName = name.segments.toText → other = found) →
          linked = some found)

variable {units : List SourceUnit} (history : List Nat)

theorem sees_memberType {number : Nat} {source : SourceUnit}
    (hsource : units[number]? = some source)
    (hshape : source.root.everywhere Node.holdsMembers none = true)
    (hdeep : (((ofUnits units).after history).walk number source).tooDeep = none)
    {declaration : Declaration} (hdeclaration : declaration ∈ Declaration.inUnit number source.root)
    {type : Site} {view : Viewpoint}
    (htyped : declaration.TypedAt (((ofUnits units).after history).walkedUnit number source) type
      view) :
    Walk.SeesFrom (((ofUnits units).after history).walkedUnit number source)
      (((ofUnits units).after history).walk number source) view type := by
  rcases Collected.tells_ofUnits (units.map (·.root)) with ⟨ledger, htells⟩
  rcases htells.unit_of (root_of_source hsource) with ⟨unit, entries, _, hunit⟩
  have hroot : Walk.Enters (((ofUnits units).after history).walkedUnit number source)
      (((ofUnits units).after history).walk number source) [] none ⟨[number], source.root⟩ := by
    refine ⟨⟨nestingLimit, { table := ((ofUnits units).after history).table }, ?_, ?_⟩, hshape⟩
    · exact ⟨rfl, rfl, rfl⟩
    · exact ⟨List.prefix_refl _, id⟩
  have hcontainer : source.root.kind.isContainer = true := by
    have htest := ((Node.everywhere_iff _ _ _).mp hshape).1
    simp only [Node.holdsMembers, Bool.and_eq_true] at htest
    exact htest.1.1
  refine Declaration.sees_of_mem_inNodes hdeep source.root.children ?_ ?_ hdeclaration htyped
  · intro child hchild hcounts
    exact ⟨_, hroot.child hdeep hcontainer hchild hcounts⟩
  · intro found hfound _
    rcases hunit.mem_inUnit.mp hfound with ⟨entry, hentry, hentryFound⟩
    rcases declares_of_entry history hunit hentry hentryFound with ⟨_, hdeclares⟩
    exact ⟨entry.id, hdeclares.numbered⟩

theorem resolves_of_sees {number : Nat} {source : SourceUnit} {view : Viewpoint} {type last : Site}
    {name : TypeName} (hwrites : type.Writes name last)
    (hdeep : (((ofUnits units).after history).walk number source).tooDeep = none)
    (hsees : Walk.SeesFrom (((ofUnits units).after history).walkedUnit number source)
      (((ofUnits units).after history).walk number source) view type) :
    ((ofUnits units).after history).Resolves number source view type name last
      (((ofUnits units).after history).decls.typeOf? view name.segments) := by
  have hnamed := named_after units history
  generalize (ofUnits units).after history = program at *
  rcases hsees with ⟨levels, before, hview, hmuted, hprecedes⟩
  have hreads := hwrites.reads (hprecedes.tooDeep hdeep)
  have hmeaning := hreads.meaning
  rw [hview] at hmeaning
  refine ⟨⟨levels, before, hview, hmeaning, hprecedes⟩, ?_,
    program.decls.typeOf_eq_type_meaning_iff view name, ?_⟩
  · intro hinferred
    rcases hreads.reported hmuted hinferred with ⟨reference, hmem, hpath, htarget⟩
    rw [hmeaning] at htarget
    exact ⟨reference, hprecedes.references.subset hmem, hpath, htarget⟩
  · intro found hhead hqualifies hfound
    rcases hnamed.throughPackages hfound with ⟨symbol, hsymbol, hkind⟩
    rw [Declarations.typeOf_eq_typeNamed hhead hfound]
    refine ⟨?_, symbol, hsymbol, hkind, ?_, ?_⟩
    · rw [Declarations.type_meaning, hhead]
      dsimp only
      rw [if_pos hqualifies, hfound]
    · intro hlinked
      rcases hnamed.byName hlinked with ⟨same, hsame, _, hname⟩
      rw [hsymbol] at hsame
      rw [Option.some.inj hsame, hname]
    · intro hname hunique
      rcases hnamed.listed hsymbol hkind with ⟨other, hother⟩
      rw [hname] at hother
      rcases hnamed.byName hother with ⟨same, hsame, hsameKind, hsameName⟩
      rw [← hunique other same hsame hsameKind hsameName]
      exact hother

/-- Every field and method that a unit declares is linked to what the walk over the unit finds at
the type written for it, unless the name of the type starts with a package or with the word for an
inferred type: then both agree exactly if a lookup of the whole name gives the type that its
segments lead to.  It does not for a member type that is inherited. -/
theorem memberType_resolved (units : List SourceUnit) (history : List Nat) {number : Nat}
    {source : SourceUnit} (hsource : units[number]? = some source)
    (hshape : source.root.everywhere Node.holdsMembers none = true) {usages : List Usage}
    (husages : (((ofUnits units).after history).usages number).1 = .ok usages)
    {declaration : Declaration} (hdeclaration : declaration ∈ Declaration.inUnit number source.root)
    (hkind : declaration.kind = .field ∨ declaration.kind = .method) {type : Site}
    (htype : declaration.holder.child? .type = some type) :
    let program := (ofUnits units).after history
    ∃ id member view, program.Signed number declaration id member view ∧
      (∀ name last, type.Writes name last →
        program.Resolves number source view type name last member.valueType) ∧
      (type.kind = .other →
        member.valueType = none ∧ program.Finds number source view type .unknown) := by
  intro program
  have hunits : program.units[number]? = some source := by
    rw [units_after]
    exact hsource
  have hdeep := ((usages_eq_ok_iff hunits).mp husages).1
  rcases signed_of_mem history hsource hdeclaration hkind with ⟨id, member, view, hsigned⟩
  have hsees : type.kind.isMemberType = true → Walk.SeesFrom (program.walkedUnit number source)
      (program.walk number source) view type := fun htypeKind =>
    sees_memberType history hsource hshape hdeep hdeclaration {
      kind := hkind, written := htype, typeKind := htypeKind, number := hsigned.unit
      enclosing := hsigned.enclosing
      member := ⟨id, member, hsigned.numbered, hsigned.recorded, hsigned.parameters,
        hsigned.field⟩ }
  have hlinked : member.valueType = type.node.typeName?.bind (program.decls.typeOf? view) := by
    rw [hsigned.linked, Collector.declaredType?, htype]
    rfl
  refine ⟨id, member, view, hsigned, ?_, ?_⟩
  · intro name last hwrites
    rw [hlinked, hwrites.typeName]
    refine resolves_of_sees history hwrites hdeep (hsees ?_)
    rcases hwrites.kind_cases with hkind | hkind | hkind <;> rw [hkind] <;> rfl
  · intro hother
    constructor
    · change type.node.kind = _ at hother
      rw [hlinked, Node.typeName_eq, hother]
      rfl
    · rcases hsees (by rw [hother]; rfl) with ⟨levels, before, hview, _, hprecedes⟩
      rcases Walker.visit_of_tooDeep_eq_none (hprecedes.tooDeep hdeep) with ⟨below, hrun⟩
      refine ⟨levels, before, hview, ?_, hprecedes⟩
      rw [hrun, Walker.step_of_isContainer (by rw [hother]; rfl)]
      rfl

def fieldOf (type : Node) (name : String) : Node :=
  ⟨.fieldDeclaration, true, none, 1, 1, 0, 0, "", [type,
    ⟨.variableDeclarator, true, some .declarator, 1, 1, 0, 0, "", [
      ⟨.identifier, true, some .name, 1, 1, 0, 0, name, []⟩]⟩]⟩

def typeWord (text : String) : Node :=
  ⟨.typeIdentifier, true, none, 1, 1, 0, 0, text, []⟩

def memberTypeIn (package outer name : String) : Node :=
  ⟨.scopedTypeIdentifier, true, some .type, 1, 1, 0, 0, "", [
    ⟨.scopedTypeIdentifier, true, none, 1, 1, 0, 0, "", [typeWord package, typeWord outer]⟩,
    typeWord name]⟩

theorem writes_memberTypeIn (path : Path) (package outer name : String) :
    Site.Writes ⟨path, memberTypeIn package outer name⟩
      (.select (.select (.simple package) outer) name) ⟨1 :: path, typeWord name⟩ := by
  have hnone : ∀ other : Site, other ∈ [] → other.kind.isTypeSegment = false :=
    fun _ hother => by cases hother
  have hword : Site.Writes ⟨0 :: 0 :: path, typeWord package⟩ (.simple package)
      ⟨0 :: 0 :: path, typeWord package⟩ := .simple rfl
  have hqualifier : Site.Writes
      ⟨0 :: path, ⟨.scopedTypeIdentifier, true, none, 1, 1, 0, 0, "",
        [typeWord package, typeWord outer]⟩⟩
      (.select (.simple package) outer) ⟨1 :: 0 :: path, typeWord outer⟩ :=
    @Site.Writes.select _ _ _ ⟨1 :: 0 :: path, typeWord outer⟩ [] _ rfl rfl hnone rfl hword
  exact @Site.Writes.select _ _ _ ⟨1 :: path, typeWord name⟩ [] _ rfl rfl hnone rfl hqualifier

def unitIn (package : String) (types : List Node) : SourceUnit where
  path := ⟨package ++ ".java"⟩
  root := ⟨.other, true, none, 1, 1, 0, 0, "",
    ⟨.packageDeclaration, true, none, 1, 1, 0, 0, "", [
      ⟨.identifier, true, none, 1, 1, 0, 0, package, []⟩]⟩ :: types⟩

/-- The unit
`package a; class Base { class Inner {} } class Outer extends Base { class Own {} }`. -/
def inheriting : SourceUnit :=
  unitIn "a" [
    classOf "Base" [] [classOf "Inner" [] []], classOf "Outer" ["Base"] [classOf "Own" [] []]]

/-- The unit `package c; class Use { a.Outer.Own own; a.Outer.Inner inner; }`. -/
def qualifiedFields : SourceUnit :=
  unitIn "c" [
    classOf "Use" [] [
      fieldOf (memberTypeIn "a" "Outer" "Own") "own",
      fieldOf (memberTypeIn "a" "Outer" "Inner") "inner"]]

/-- A member type that is declared where it is looked for is found both ways. -/
theorem memberType_resolved_own :
    let program := (ofUnits [inheriting, qualifiedFields]).after [0]
    ∃ declaration type name last id member view,
      declaration ∈ Declaration.inUnit 1 qualifiedFields.root ∧ declaration.kind = .field ∧
      declaration.holder.child? .type = some type ∧ type.Writes name last ∧
      name.segments = ["a", "Outer", "Own"] ∧
      program.Signed 1 declaration id member view ∧
      program.Resolves 1 qualifiedFields view type name last member.valueType ∧
      member.valueType = some 6 := by
  intro program
  have hshape : qualifiedFields.root.everywhere Node.holdsMembers none = true := by decide
  have husages : (program.usages 1).1 =
      .ok ((program.walk 1 qualifiedFields).references.toList.map (·.usage)) :=
    (usages_eq_ok_iff rfl).mpr ⟨by decide +kernel, rfl⟩
  have hnumbered : program.decls.sites[[1, 0, 1, 1, 1]]? = some 11 := by decide +kernel
  have hvalue : program.decls.valueType? 11 = some 6 := by decide +kernel
  rcases memberType_resolved [inheriting, qualifiedFields] [0] rfl hshape husages
    (List.mem_of_getElem? (i := 1) rfl) (Or.inl rfl) rfl with ⟨id, member, view, hsigned, hnamed, _⟩
  have hwrites := writes_memberTypeIn [0, 0, 1, 1, 1] "a" "Outer" "Own"
  refine ⟨_, _, _, _, id, member, view, List.mem_of_getElem? (i := 1) rfl, rfl, rfl, hwrites, rfl,
    hsigned, hnamed _ _ hwrites, ?_⟩
  have hid := hsigned.numbered.symm.trans hnumbered
  rw [Declarations.valueType?, ← Option.some.inj hid, hsigned.recorded] at hvalue
  exact hvalue

/-- A member type that is inherited is found on the walk but not when the field is linked. -/
theorem inner_unlinked :
    let program := ofUnits [inheriting, qualifiedFields]
    program.decls.sites[[1, 1, 1, 1, 1]]? = some 12 ∧ program.decls.valueType? 12 = none ∧
      program.decls.meaning { unit := 1, enclosing := [10] }
        (.select (.select (.simple "a") "Outer") "Inner") = .type 2 ∧
      ((program.walk 1 qualifiedFields).references.toList.map fun reference =>
        (reference.usage.name, reference.usage.target)) =
        [("a", some 0), ("Outer", some 5), ("Own", some 6), ("a", some 0), ("Outer", some 5),
          ("Inner", some 2)] := by
  intro program
  refine ⟨?_, ?_, ?_, ?_⟩
  · decide +kernel
  · decide +kernel
  · decide +kernel
  · decide +kernel

end Program

end RestrictedApi
