import RestrictedApi.Proofs.Grammar

/-!
# Productions

Which children a node can have, as far as the walk relies on it: at many nodes it does not go on to
all children but picks some of them, by their roles, their kinds or their order.  The tests here say
what the grammar allows at these nodes, so that a child that is not picked is known to be a word, a
name or the like.  Some children are passed over although they may hold names of types; what stands
in no such child is owed a reference.
-/

namespace RestrictedApi

/-!
# Picked children
-/

namespace NodeKind

/-- Names, keywords and marks, which have no types below them. -/
def isSilent : NodeKind → Bool
  | .identifier | .scopedIdentifier | .underscorePattern | .thisKeyword | .superKeyword
  | .asterisk => true
  | _ => false

def pickedRoles : NodeKind → List Role
  | .annotationMarker | .annotationCall => [.arguments]
  | .elementValuePair | .variableDeclarator => [.value]
  | .fieldAccess => [.object]
  | .methodInvocation => [.object, .typeArguments, .arguments]
  | .binaryExpression | .assignmentExpression => [.left, .right]
  | .switchExpression => [.condition, .body]
  | .castExpression => [.type, .value]
  | .lambdaExpression => [.parameters, .body]
  | .explicitConstructorInvocation => [.object, .arguments]
  | .localVariableDeclaration => [.type, .declarator]
  | _ => []

def pickedKinds : NodeKind → List NodeKind
  | .packageDeclaration => [.annotationMarker, .annotationCall]
  | .variableDeclarator => [.dimensions]
  | .explicitConstructorInvocation => [.typeArguments]
  | .localVariableDeclaration => [.modifiers]
  | _ => []

/-- A node that has only silent children besides those that are picked. -/
def picks (kind : NodeKind) : Bool :=
  kind.isSilent || !kind.pickedRoles.isEmpty || !kind.pickedKinds.isEmpty ||
    [importDeclaration, breakStatement, continueStatement, inferredParameters].contains kind

theorem picks_of_isSilent {kind : NodeKind} (hkind : kind.isSilent = true) :
    kind.picks = true ∧ kind.pickedRoles = [] ∧ kind.pickedKinds = [] := by
  revert hkind
  cases kind <;> decide

/-- The roles in which only one child is looked for and only one can stand. -/
def soleRoles : NodeKind → List Role
  | .castExpression => [.value]
  | .localVariableDeclaration => [.type]
  | kind => kind.pickedRoles

def soleKinds : NodeKind → List NodeKind
  | .explicitConstructorInvocation => [.typeArguments]
  | .localVariableDeclaration => [.modifiers]
  | _ => []

end NodeKind

/-!
# What the grammar allows
-/

namespace Node

/-- A parameter, or something without a name in the place of one. -/
def isComponent (node : Node) : Bool :=
  node.kind.isParameter ||
    node.kind = .other && node.children.all fun child => child.role ≠ some .name

def admits (parent child : Node) : Bool :=
  let picked := child.kind.isSilent || child.role.any parent.kind.pickedRoles.contains ||
    parent.kind.pickedKinds.contains child.kind
  let declared := !parent.kind.declaresName || child.role ≠ some .name || child.kind.isSilent
  let declarator := child.kind ≠ .variableDeclarator || parent.kind.isParameter ||
    [.fieldDeclaration, .constantDeclaration, .localVariableDeclaration].contains parent.kind
  (!(child.counts && parent.kind.picks) || picked) && declared && declarator &&
    (parent.kind ≠ .formalParameters || !child.counts || child.isComponent)

def fitsPlace (node : Node) : Bool :=
  (node.counts || node.children.isEmpty && node.kind ≠ .typeIdentifier) &&
    match node.role with
    | some .arguments | some .parameters | some .body => node.kind ≠ .typeIdentifier
    | some .declarator => node.kind = .variableDeclarator
    | some .type => node.text ≠ "var" || node.kind = .typeIdentifier
    | _ => true

def isOrderly (node : Node) : Bool :=
  let named := node.children.filter counts
  (node.kind.soleRoles.all fun role =>
    (node.children.filter fun child => child.role = some role).length ≤ 1) &&
  (node.kind.soleKinds.all fun kind => (named.filter fun child => child.kind = kind).length ≤ 1) &&
  match node.kind with
  | .typeIdentifier => node.children.isEmpty
  | .parenthesizedExpression => named.length ≤ 1
  | .labeledStatement => named.head?.all fun label => label.kind.isSilent
  | .methodReference =>
      named.tail.all fun part => part.kind.isSilent || part.kind = .typeArguments
  | _ => true

def isProduced (parent : Option Node) (node : Node) : Bool :=
  node.fitsPlace && node.isOrderly && parent.all fun parent => parent.admits node

end Node

def Site.Produced (parent : Option Site) (site : Site) : Prop :=
  site.node.everywhere Node.isProduced (parent.map Site.node) = true

namespace Site

variable {parent : Option Site} {site child : Site}

theorem Produced.below (h : site.Produced parent) (hchild : child ∈ site.children) :
    child.Produced (some site) :=
  everywhere_of_mem_children h hchild

theorem Produced.fitsPlace (h : site.Produced parent) : site.node.fitsPlace = true := by
  have htest := ((Node.everywhere_iff _ _ _).mp h).1
  simp only [Node.isProduced, Bool.and_eq_true] at htest
  exact htest.1.1

theorem Produced.isOrderly (h : site.Produced parent) : site.node.isOrderly = true := by
  have htest := ((Node.everywhere_iff _ _ _).mp h).1
  simp only [Node.isProduced, Bool.and_eq_true] at htest
  exact htest.1.2

theorem Produced.admits (h : child.Produced (some site)) :
    site.node.admits child.node = true := by
  have htest := ((Node.everywhere_iff _ _ _).mp h).1
  simp only [Node.isProduced, Bool.and_eq_true] at htest
  exact htest.2

theorem Produced.kind_ne_typeIdentifier (h : site.Produced parent)
    (hrole : site.node.role ∈ [some .arguments, some .parameters, some .body]) :
    site.kind ≠ .typeIdentifier := by
  have hplace := (Bool.and_eq_true_iff.mp h.fitsPlace).2
  simp only [List.mem_cons, List.not_mem_nil, or_false] at hrole
  rcases hrole with hrole | hrole | hrole <;> simpa [kind, hrole] using hplace

theorem Produced.kind_of_declarator (h : site.Produced parent)
    (hrole : site.node.role = some .declarator) : site.kind = .variableDeclarator := by
  have hplace := (Bool.and_eq_true_iff.mp h.fitsPlace).2
  simpa [kind, hrole] using hplace

theorem Produced.kind_of_var (h : site.Produced parent) (hrole : site.node.role = some .type)
    (htext : site.text = "var") : site.kind = .typeIdentifier := by
  have hplace := (Bool.and_eq_true_iff.mp h.fitsPlace).2
  rw [text] at htext
  simpa [kind, hrole, htext] using hplace

theorem Produced.picked (h : child.Produced (some site)) (hcounts : child.node.counts = true)
    (hpicks : site.kind.picks = true) :
    child.kind.isSilent = true ∨ (∃ role ∈ site.kind.pickedRoles, child.node.role = some role) ∨
      child.kind ∈ site.kind.pickedKinds := by
  have hadmits := h.admits
  rw [kind] at hpicks
  simp only [Node.admits, hcounts, hpicks, Bool.and_eq_true, Bool.or_eq_true, Bool.not_eq_true',
    Bool.and_self, Bool.true_eq_false, false_or, List.contains_iff_mem] at hadmits
  rcases hadmits.1.1.1 with (hsilent | hrole) | hkind
  · exact Or.inl hsilent
  · cases hsome : child.node.role with
    | none => simp [hsome] at hrole
    | some role =>
        rw [hsome, Option.any_some, List.contains_iff_mem] at hrole
        exact Or.inr (Or.inl ⟨role, hrole, rfl⟩)
  · exact Or.inr (Or.inr hkind)

theorem Produced.silent_of_name (h : child.Produced (some site))
    (hdeclares : site.kind.declaresName = true) (hrole : child.node.role = some .name) :
    child.kind.isSilent = true := by
  have hadmits := h.admits
  rw [kind] at hdeclares
  simp only [Node.admits, hdeclares, hrole, Bool.and_eq_true, Bool.not_true, ne_eq,
    not_true_eq_false, decide_false, Bool.or_self, Bool.false_or] at hadmits
  exact hadmits.1.1.2

theorem Produced.parent_of_variableDeclarator (h : child.Produced (some site))
    (hkind : child.kind = .variableDeclarator) : site.kind.isParameter = true ∨
      site.kind ∈ [.fieldDeclaration, .constantDeclaration, .localVariableDeclaration] := by
  have hadmits := h.admits
  rw [kind] at hkind
  simp only [Node.admits, hkind, Bool.and_eq_true, Bool.or_eq_true, ne_eq, not_true_eq_false,
    decide_false, Bool.false_eq_true, false_or, List.contains_iff_mem] at hadmits
  exact hadmits.1.2

theorem Produced.isComponent (h : child.Produced (some site)) (hcounts : child.node.counts = true)
    (hkind : site.kind = .formalParameters) : child.node.isComponent = true := by
  have hadmits := h.admits
  rw [kind] at hkind
  simp only [Node.admits, hkind, hcounts, Bool.and_eq_true, ne_eq, not_true_eq_false, decide_false,
    Bool.not_true, Bool.or_self, Bool.false_or] at hadmits
  exact hadmits.2

theorem find?_eq_of_sole {α : Type} {items : List α} {test : α → Bool} {item : α}
    (hitem : item ∈ items) (htest : test item = true)
    (hsole : (items.filter test).length ≤ 1) : items.find? test = some item := by
  have hmem := List.mem_filter.mpr ⟨hitem, htest⟩
  have hfilter : items.filter test = [item] := by
    cases hlist : items.filter test with
    | nil => simp [hlist] at hmem
    | cons first rest =>
        rw [hlist] at hmem hsole
        have hrest : rest = [] := List.eq_nil_of_length_eq_zero (by simpa using hsole)
        rw [hrest] at hmem ⊢
        rw [List.mem_singleton.mp hmem]
  rw [← List.head?_filter, hfilter]
  rfl

theorem Produced.child?_eq (h : site.Produced parent) (hchild : child ∈ site.children) {role : Role}
    (hsole : role ∈ site.kind.soleRoles) (hrole : child.node.role = some role) :
    site.child? role = some child := by
  have horderly := h.isOrderly
  simp only [Node.isOrderly, Bool.and_eq_true, List.all_eq_true, decide_eq_true_eq] at horderly
  have hlength := horderly.1.1 role hsole
  rw [← map_node_number site.path 0 site.node.children, List.filter_map, List.length_map] at hlength
  exact find?_eq_of_sole hchild (by simpa using hrole) hlength

theorem Produced.childOfKind?_eq (h : site.Produced parent) (hchild : child ∈ site.namedChildren)
    (hsole : child.kind ∈ site.kind.soleKinds) :
    site.childOfKind? child.kind = some child := by
  have horderly := h.isOrderly
  simp only [Node.isOrderly, Bool.and_eq_true, List.all_eq_true, decide_eq_true_eq] at horderly
  have hlength := horderly.1.2 child.kind hsole
  rw [← map_node_namedChildren, List.filter_map, List.length_map] at hlength
  exact find?_eq_of_sole hchild (by simp) hlength

theorem Produced.part_of_methodReference (h : site.Produced parent)
    (hkind : site.kind = .methodReference) (hchild : child ∈ site.namedChildren.tail) :
    child.kind.isSilent = true ∨ child.kind = .typeArguments := by
  have horderly := h.isOrderly
  rw [kind] at hkind
  simp only [Node.isOrderly, hkind, ← map_node_namedChildren, Bool.and_eq_true, List.all_eq_true,
    Bool.or_eq_true, decide_eq_true_eq] at horderly
  exact horderly.2 child.node (List.map_tail ▸ List.mem_map_of_mem hchild)

theorem Produced.silent_label (h : site.Produced parent) (hkind : site.kind = .labeledStatement)
    {rest : List Site} (hnamed : site.namedChildren = child :: rest) :
    child.kind.isSilent = true := by
  have horderly := h.isOrderly
  rw [kind] at hkind
  simp only [Node.isOrderly, hkind, ← map_node_namedChildren, hnamed, Bool.and_eq_true] at horderly
  exact horderly.2

theorem Produced.parenthesized (h : site.Produced parent)
    (hkind : site.kind = .parenthesizedExpression) (hchild : child ∈ site.namedChildren) :
    site.namedChildren.head? = some child := by
  have horderly := h.isOrderly
  rw [kind] at hkind
  simp only [Node.isOrderly, hkind, ← map_node_namedChildren, Bool.and_eq_true, List.length_map,
    decide_eq_true_eq] at horderly
  cases hnamed : site.namedChildren with
  | nil => simp [hnamed] at hchild
  | cons first rest =>
      have hrest : rest = [] := by
        have hlength := horderly.2
        rw [hnamed] at hlength
        exact List.eq_nil_of_length_eq_zero (by simpa using hlength)
      rw [hnamed, hrest, List.mem_singleton] at hchild
      rw [hchild]
      rfl

/-!
# Names of types

A name of a type is owed a reference if no node on the way to it passes over the child through which
the way goes.
-/

/-- Children that hold no written use of a type: the name that a type parameter declares, what
stands before the `::` of a method reference, and brackets. -/
def exempts (site child : Site) : Bool :=
  child.kind = .dimensions ||
    match site.kind with
    | .typeParameter => child.isAt (site.childOfKind? .typeIdentifier)
    | .methodReference => child.isAt site.namedChildren.head?
    | _ => false

/-- Children that are passed over although they may hold uses of types: what a module has before its
name, the types of a cast after the first one, and the initial value of a parameter. -/
def drops (site child : Site) : Bool :=
  match site.kind with
  | .moduleDeclaration => true
  | .castExpression => child.node.role = some .type && !child.isAt (site.child? .type)
  | kind => kind.isParameter && child.kind = .variableDeclarator

/-- A place is a site or stands below it, and nothing on the way is passed over. -/
inductive ShownIn (place : Site) : Site → Prop where
  | here : place.ShownIn place
  | child {site child : Site} :
      child ∈ site.children →
      site.exempts child = false →
      site.drops child = false →
      place.ShownIn child →
      place.ShownIn site

/-- The walk of a site owes a reference to a type name in it. -/
structure OwedIn (place : Site) (parent : Option Site) (site : Site) : Prop where
  produced : site.Produced parent
  kind : place.kind = .typeIdentifier
  text : place.text ≠ "var"
  shown : place.ShownIn site

variable {place : Site}

theorem OwedIn.eq_of_no_children (h : place.OwedIn parent site) (hnone : site.node.children = []) :
    place = site := by
  rcases h with ⟨-, -, -, hshown⟩
  cases hshown with
  | here => rfl
  | child hchild _ _ _ =>
      have hmem := node_mem_of_mem_children hchild
      rw [hnone] at hmem
      cases hmem

theorem OwedIn.eq_of_typeIdentifier (h : place.OwedIn parent site)
    (hkind : site.kind = .typeIdentifier) : place = site := by
  apply h.eq_of_no_children
  have horderly := h.produced.isOrderly
  rw [Site.kind] at hkind
  simp only [Node.isOrderly, hkind, Bool.and_eq_true, List.isEmpty_iff] at horderly
  exact horderly.2

theorem OwedIn.counts (h : place.OwedIn parent site) : site.node.counts = true := by
  rw [← Bool.not_eq_false]
  intro hcounts
  have hplace := (Bool.and_eq_true_iff.mp h.produced.fitsPlace).1
  simp only [hcounts, Bool.false_or, Bool.and_eq_true, List.isEmpty_iff, ne_eq,
    decide_eq_true_eq] at hplace
  have hself := h.eq_of_no_children hplace.1
  exact hplace.2 (hself ▸ h.kind)

structure OwedThrough (place site child : Site) : Prop where
  mem : child ∈ site.namedChildren
  exempt : site.exempts child = false
  dropped : site.drops child = false
  owed : place.OwedIn (some site) child

theorem OwedIn.exists_child (h : place.OwedIn parent site) (hkind : site.kind ≠ .typeIdentifier) :
    ∃ child, place.OwedThrough site child := by
  rcases h with ⟨hproduced, hplace, htext, hshown⟩
  cases hshown with
  | here => exact absurd hplace hkind
  | child hchild hexempt hdropped hbelow =>
      have howed : place.OwedIn (some site) _ := ⟨hproduced.below hchild, hplace, htext, hbelow⟩
      exact ⟨_, List.mem_filter.mpr ⟨hchild, howed.counts⟩, hexempt, hdropped, howed⟩

theorem OwedIn.not_silent (h : place.OwedIn parent site) : site.kind.isSilent = false := by
  rcases h with ⟨hproduced, hplace, htext, hshown⟩
  rw [← Bool.not_eq_true]
  intro hsilent
  induction hshown generalizing parent with
  | here =>
      rw [hplace] at hsilent
      cases hsilent
  | child hchild _ _ hbelow ih =>
      have hproduced := hproduced.below hchild
      have hcounts := OwedIn.counts ⟨hproduced, hplace, htext, hbelow⟩
      rcases hproduced.picked hcounts (NodeKind.picks_of_isSilent hsilent).1 with hsilent' | hpicked
      · exact ih hproduced hsilent'
      · simp [(NodeKind.picks_of_isSilent hsilent).2] at hpicked

theorem OwedIn.kind_ne (h : place.OwedIn parent site) {kind : NodeKind}
    (hsilent : kind.isSilent = true) : site.kind ≠ kind := by
  rintro rfl
  rw [h.not_silent] at hsilent
  cases hsilent

theorem OwedThrough.kind_ne_dimensions (h : place.OwedThrough site child) :
    child.kind ≠ .dimensions := by
  intro hkind
  have hexempt := h.exempt
  simp [exempts, hkind] at hexempt

theorem OwedIn.exists_picked (h : place.OwedIn parent site) (hpicks : site.kind.picks = true) :
    ∃ child, place.OwedThrough site child ∧
      ((∃ role ∈ site.kind.pickedRoles, child.node.role = some role) ∨
        child.kind ∈ site.kind.pickedKinds) := by
  have hkind : site.kind ≠ .typeIdentifier := by
    intro hkind
    rw [hkind] at hpicks
    cases hpicks
  rcases h.exists_child hkind with ⟨child, hchild⟩
  refine ⟨child, hchild, ?_⟩
  rcases hchild.owed.produced.picked hchild.owed.counts hpicks with hsilent | hpicked
  · rw [hchild.owed.not_silent] at hsilent
    cases hsilent
  · exact hpicked

theorem OwedIn.pickedRoles_ne_nil (h : place.OwedIn parent site) (hpicks : site.kind.picks = true) :
    site.kind.pickedRoles ≠ [] ∨ site.kind.pickedKinds ≠ [] := by
  rcases h.exists_picked hpicks with ⟨child, -, ⟨role, hrole, -⟩ | hkind⟩
  · exact Or.inl (List.ne_nil_of_mem hrole)
  · exact Or.inr (List.ne_nil_of_mem hkind)

theorem OwedIn.child?_eq (h : place.OwedIn parent site) (hchild : place.OwedThrough site child)
    {role : Role} (hsole : role ∈ site.kind.soleRoles) (hrole : child.node.role = some role) :
    site.child? role = some child :=
  h.produced.child?_eq (mem_children_of_mem_namedChildren hchild.mem) hsole hrole

theorem OwedIn.exists_in_role (h : place.OwedIn parent site) (hroles : site.kind.pickedRoles ≠ [])
    (hkinds : site.kind.pickedKinds = []) (hsole : site.kind.soleRoles = site.kind.pickedRoles) :
    ∃ role ∈ site.kind.pickedRoles, ∃ child,
      site.child? role = some child ∧ place.OwedIn (some site) child := by
  rcases h.exists_picked (by simp [NodeKind.picks, hroles]) with ⟨child, hchild, hpicked⟩
  rcases hpicked with ⟨role, hrole, hsome⟩ | hkind
  · exact ⟨role, hrole, child, h.child?_eq hchild (hsole ▸ hrole) hsome, hchild.owed⟩
  · rw [hkinds] at hkind
    cases hkind

theorem OwedIn.exists_in_pair (h : place.OwedIn parent site) {first second : Role}
    (hroles : site.kind.pickedRoles = [first, second]) (hkinds : site.kind.pickedKinds = [])
    (hsole : site.kind.soleRoles = [first, second]) :
    ∃ child, place.OwedIn (some site) child ∧
      (site.child? first = some child ∨ site.child? second = some child) := by
  rcases h.exists_in_role (by simp [hroles]) hkinds (hsole.trans hroles.symm) with
    ⟨role, hrole, child, hchild, howed⟩
  rw [hroles, List.mem_pair] at hrole
  refine ⟨child, howed, ?_⟩
  rcases hrole with rfl | rfl
  · exact Or.inl hchild
  · exact Or.inr hchild

theorem OwedThrough.mem_childrenExcept (h : place.OwedThrough site child)
    {excluded : List (Option Site)} (hexcluded : some child ∉ excluded)
    (hchildren : ∀ other, some other ∈ excluded → other ∈ site.children) :
    child ∈ site.childrenExcept excluded := by
  refine List.mem_filter.mpr ⟨h.mem, ?_⟩
  rw [Bool.not_eq_true', List.any_eq_false]
  intro found hfound hat
  cases found with
  | none => cases hat
  | some other =>
      rw [isAt, Option.any_some, same, decide_eq_true_eq] at hat
      have hmem := mem_children_of_mem_namedChildren h.mem
      exact hexcluded (eq_of_path hmem (hchildren other hfound) hat ▸ hfound)

theorem OwedThrough.ne_name (h : place.OwedThrough site child)
    (hdeclares : site.kind.declaresName = true) : site.child? .name ≠ some child := by
  intro hname
  have hsilent := h.owed.produced.silent_of_name hdeclares (role_of_child? hname)
  rw [h.owed.not_silent] at hsilent
  cases hsilent

theorem OwedThrough.mem_childrenExcept_name (h : place.OwedThrough site child)
    (hname : site.child? .name ≠ some child) :
    child ∈ site.childrenExcept [site.child? .name] := by
  refine h.mem_childrenExcept ?_ ?_
  · rw [List.mem_singleton]
    exact hname.symm
  · intro other hother
    exact mem_children_of_child? (List.mem_singleton.mp hother).symm

theorem OwedThrough.parameter_part (h : place.OwedThrough site child)
    (hsite : site.node.isComponent = true) :
    child ∈ site.childrenExcept [site.child? .name] ∧
      child.kind ∉ [.variableDeclarator, .dimensions, .underscorePattern] := by
  have hname : site.child? .name ≠ some child := by
    rcases Bool.or_eq_true_iff.mp hsite with hparameter | hother
    · apply h.ne_name
      simp [NodeKind.declaresName, kind, hparameter]
    · simp only [Bool.and_eq_true, List.all_eq_true, ne_eq, decide_eq_true_eq] at hother
      intro hname
      exact hother.2 child.node
        (node_mem_of_mem_children (mem_children_of_child? hname)) (role_of_child? hname)
  have hdeclarator : child.kind ≠ .variableDeclarator := by
    intro hdeclarator
    rcases Bool.or_eq_true_iff.mp hsite with hparameter | hother
    · have hdropped : site.drops child = true := by
        unfold drops
        split <;> simp_all [NodeKind.isParameter, kind]
      rw [h.dropped] at hdropped
      cases hdropped
    · have hparent := h.owed.produced.parent_of_variableDeclarator hdeclarator
      rw [kind, of_decide_eq_true (Bool.and_eq_true_iff.mp hother).1] at hparent
      revert hparent
      decide
  refine ⟨h.mem_childrenExcept_name hname, ?_⟩
  simp only [List.mem_cons, List.not_mem_nil, or_false, not_or]
  exact ⟨hdeclarator, h.kind_ne_dimensions, h.owed.kind_ne rfl⟩

theorem OwedThrough.child?_type (h : place.OwedThrough site child)
    (hkind : site.kind = .castExpression) (hrole : child.node.role = some .type) :
    site.child? .type = some child := by
  have hdropped := h.dropped
  simp only [drops, hkind, hrole, decide_true, Bool.true_and, Bool.not_eq_false'] at hdropped
  cases htype : site.child? .type with
  | none => simp [htype, isAt] at hdropped
  | some type =>
      rw [htype, isAt, Option.any_some, same, decide_eq_true_eq] at hdropped
      rw [eq_of_path (mem_children_of_mem_namedChildren h.mem) (mem_children_of_child? htype)
        hdropped]

end Site

end RestrictedApi
