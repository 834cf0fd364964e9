import Mathlib.Data.List.Nodup
import RestrictedApi.Proofs.Declaration

/-!
# The shape of syntax trees

Which children of a node declare a name, which nodes open a block for the names declared in them,
and what the grammar allows below a node where the walk relies on it.  These are tests, so whether a
tree keeps to them can be computed.  The tree of a broken source may keep to some of them only.
-/

namespace RestrictedApi

/-!
# Declared names and blocks
-/

namespace NodeKind

def isMethod : NodeKind → Bool
  | .methodDeclaration | .constructorDeclaration | .compactConstructorDeclaration
  | .annotationElementDeclaration => true
  | _ => false

def isParameter : NodeKind → Bool
  | .formalParameter | .spreadParameter | .catchFormalParameter => true
  | _ => false

/-- A declaration of the name that is its first child in that role. -/
def declaresName (kind : NodeKind) : Bool :=
  kind.isTypeDeclaration || kind.isMethod || kind.isParameter ||
    [enumConstant, variableDeclarator, resource, enhancedForStatement,
      instanceofExpression].contains kind

def declaresOtherwise : NodeKind → Bool
  | .typeParameter | .lambdaExpression | .inferredParameters | .typePattern
  | .recordPatternComponent | .labeledStatement => true
  | _ => false

def opensBlock (kind : NodeKind) : Bool :=
  kind.isTypeDeclaration || kind.isMethod ||
    [block, constructorBody, staticInitializer, switchGroup, switchRule, forStatement, catchClause,
      tryWithResources, enhancedForStatement, lambdaExpression].contains kind

def declares (kind : NodeKind) : Bool :=
  kind.declaresName || kind.declaresOtherwise

/-- A node all of whose children may be visited: none is declared, and none is a body that gets a
block of its own. -/
def visitsAll (kind : NodeKind) : Bool :=
  !kind.declares && kind ≠ .objectCreation

def opensNothing (kind : NodeKind) : Bool :=
  !kind.opensBlock && kind ≠ .importDeclaration

def isPlain (kind : NodeKind) : Bool :=
  kind.visitsAll && kind.opensNothing

theorem visitsAll_of_isPlain {kind : NodeKind} (hkind : kind.isPlain = true) :
    kind.visitsAll = true :=
  (Bool.and_eq_true_iff.mp hkind).1

theorem opensNothing_of_isPlain {kind : NodeKind} (hkind : kind.isPlain = true) :
    kind.opensNothing = true :=
  (Bool.and_eq_true_iff.mp hkind).2

theorem ne_import_of_opensNothing {kind : NodeKind} (hkind : kind.opensNothing = true) :
    kind ≠ .importDeclaration := by
  simp only [opensNothing, Bool.and_eq_true, decide_eq_true_eq] at hkind
  exact hkind.2

theorem declares_of_visitsAll {kind : NodeKind} (hkind : kind.visitsAll = true) :
    kind.declares = false := by
  simp only [visitsAll, Bool.and_eq_true, Bool.not_eq_true'] at hkind
  exact hkind.1

theorem isPlain_of_isName {kind : NodeKind} (hkind : kind.isName = true) :
    kind.isPlain = true := by
  revert hkind
  cases kind <;> decide

theorem isPlain_of_isAnnotationUse {kind : NodeKind} (hkind : kind.isAnnotationUse = true) :
    kind.isPlain = true := by
  revert hkind
  cases kind <;> decide

end NodeKind

namespace Site

def declaredNames (site : Site) : List Site :=
  if site.kind.declaresName then (site.child? .name).toList
  else
    match site.kind with
    | .typeParameter => (site.childOfKind? .typeIdentifier).toList
    | .lambdaExpression =>
        ((site.child? .parameters).filter fun parameter => parameter.kind = .identifier).toList
    | .inferredParameters => site.namedChildren
    | .typePattern | .recordPatternComponent =>
        site.namedChildren.filter fun child => child.kind = .identifier
    | .labeledStatement => site.namedChildren.take 1
    | _ => []

/-- The body of an anonymous class or of an enum constant. -/
def anonymousBody? (site : Site) : Option Site :=
  match site.kind with
  | .objectCreation => site.childOfKind? .classBody
  | .enumConstant => site.child? .body
  | _ => none

def isAnonymousBody (parent : Option Site) (site : Site) : Bool :=
  parent.any fun parent => site.isAt parent.anonymousBody?

def opensBlock (parent : Option Site) (site : Site) : Bool :=
  site.kind.opensBlock || site.isAnonymousBody parent

end Site

/-!
# What the grammar allows
-/

namespace Node

def fitsRole (node : Node) : Bool :=
  match node.role with
  | some .scope => node.kind.isName
  | some .type | some .object | some .arguments | some .constructor =>
      !([NodeKind.modifiers, .classBody, .typeArguments].contains node.kind)
  | _ => true

/-- What the parts are that the walk enters without visiting them. -/
def admitsPart (parent child : Node) : Bool :=
  match parent.kind with
  | .annotationMarker | .annotationCall =>
      match child.role with
      | some .name => child.kind.isName
      | some .arguments => child.kind.isPlain
      | _ => true
  | .methodInvocation | .objectCreation | .explicitConstructorInvocation =>
      child.role ≠ some .arguments || child.kind.isPlain
  | .localVariableDeclaration =>
      child.role ≠ some .declarator || child.kind = .variableDeclarator
  | .enumConstant => child.role ≠ some .body || child.kind.isPlain
  | .lambdaExpression =>
      child.role ≠ some .parameters || child.kind = .inferredParameters || child.kind.isPlain
  | .formalParameters => child.kind.isParameter || child.kind.isPlain
  | _ => true

/-- Only the parameters of a lambda can be inferred. -/
def fitsParent (parent : Option Node) (node : Node) : Bool :=
  node.kind ≠ .inferredParameters || parent.any fun parent =>
    parent.kind = .lambdaExpression && node.role = some .parameters

/-- A call has a name, and a method reference has something before its last child. -/
def isComplete (node : Node) : Bool :=
  match node.kind with
  | .methodInvocation => node.children.any fun child => child.role = some .name
  | .methodReference => node.children.dropLast.any counts
  | _ => true

def isGrammatical (parent : Option Node) (node : Node) : Bool :=
  node.isComplete && node.fitsRole && node.fitsParent parent &&
    parent.all fun parent => parent.admitsPart node

/-- What the opening of blocks relies on: of the parts that the walk enters without visiting them,
none opens a block. -/
def isWellPlaced (parent : Option Node) (node : Node) : Bool :=
  node.fitsRole && parent.all fun parent => parent.admitsPart node

theorem isWellPlaced_of_isGrammatical {parent : Option Node} {node : Node}
    (h : node.isGrammatical parent = true) : node.isWellPlaced parent = true := by
  simp only [isGrammatical, Bool.and_eq_true] at h
  exact Bool.and_eq_true_iff.mpr ⟨h.1.1.2, h.2⟩

end Node

namespace Site

variable {site child : Site}

def NamesCalls (site : Site) : Prop :=
  ∀ steps place, site.descend? steps = some place → place.kind = .methodInvocation →
    ∃ name, place.child? .name = some name

theorem NamesCalls.descend? {top : Site} (h : top.NamesCalls) {steps : List Nat}
    (hsite : top.descend? steps = some site) : site.NamesCalls := by
  intro others place hplace
  exact h (steps ++ others) place ((descend?_append hsite others).trans hplace)

theorem NamesCalls.below (h : site.NamesCalls) (hchild : child ∈ site.children) :
    child.NamesCalls := by
  rcases exists_step_of_mem_children hchild with ⟨i, _, hi⟩
  exact h.descend? (hi [])

theorem exists_name_of_isComplete (hcomplete : site.node.isComplete = true)
    (hkind : site.kind = .methodInvocation) : ∃ nameSite, site.child? .name = some nameSite := by
  rw [kind] at hkind
  simp only [Node.isComplete, hkind, List.any_eq_true] at hcomplete
  rcases hcomplete with ⟨node, hnode, hrole⟩
  rcases List.mem_iff_getElem?.mp hnode with ⟨i, hi⟩
  have hmem : (⟨i :: site.path, node⟩ : Site) ∈ site.children := by
    apply List.mem_of_getElem? (i := i)
    rw [getElem?_children, hi]
    rfl
  rw [← Option.isSome_iff_exists, child?, List.find?_isSome]
  exact ⟨_, hmem, hrole⟩

theorem namesCalls_of_isGrammatical {parent : Option Node}
    (h : site.node.everywhere Node.isGrammatical parent = true) : site.NamesCalls := by
  intro steps place hplace hkind
  rcases everywhere_of_descend? h hplace with ⟨above, hbelow⟩
  have htest := ((Node.everywhere_iff _ _ _).mp hbelow).1
  simp only [Node.isGrammatical, Bool.and_eq_true] at htest
  exact exists_name_of_isComplete htest.1.1.1 hkind

end Site

/-- How far a tree keeps to the grammar: in the parts that the walk enters without visiting them,
also in that every call has a name, or in all that is tested here. -/
inductive Shape where
  | loose
  | named
  | whole
deriving DecidableEq

structure Site.Grammatical (shape : Shape) (parent : Option Site) (site : Site) : Prop where
  wellPlaced : site.node.everywhere Node.isWellPlaced (parent.map Site.node) = true
  namesCalls : shape ≠ .loose → site.NamesCalls
  whole : shape = .whole → site.node.everywhere Node.isGrammatical (parent.map Site.node) = true

namespace Site

variable {shape : Shape} {parent : Option Site} {site child : Site}

theorem grammatical_loose
    (h : site.node.everywhere Node.isWellPlaced (parent.map Site.node) = true) :
    site.Grammatical .loose parent where
  wellPlaced := h
  namesCalls := fun hshape => absurd rfl hshape
  whole := fun hshape => by cases hshape

theorem grammatical_named
    (h : site.node.everywhere Node.isWellPlaced (parent.map Site.node) = true)
    (hcalls : site.NamesCalls) : site.Grammatical .named parent where
  wellPlaced := h
  namesCalls := fun _ => hcalls
  whole := fun hshape => by cases hshape

theorem grammatical_whole
    (h : site.node.everywhere Node.isGrammatical (parent.map Site.node) = true) :
    site.Grammatical .whole parent where
  wellPlaced := Node.everywhere_mono (fun _ _ => Node.isWellPlaced_of_isGrammatical) _ h
  namesCalls := fun _ => namesCalls_of_isGrammatical h
  whole := fun _ => h

theorem Grammatical.below (h : site.Grammatical shape parent) (hchild : child ∈ site.children) :
    child.Grammatical shape (some site) where
  wellPlaced := everywhere_of_mem_children h.wellPlaced hchild
  namesCalls := fun hshape => (h.namesCalls hshape).below hchild
  whole := fun hshape => everywhere_of_mem_children (h.whole hshape) hchild

theorem Grammatical.isComplete (h : site.Grammatical .whole parent) :
    site.node.isComplete = true := by
  have htest := ((Node.everywhere_iff _ _ _).mp (h.whole rfl)).1
  simp only [Node.isGrammatical, Bool.and_eq_true] at htest
  exact htest.1.1.1

theorem Grammatical.fitsParent (h : site.Grammatical .whole parent) :
    site.node.fitsParent (parent.map Site.node) = true := by
  have htest := ((Node.everywhere_iff _ _ _).mp (h.whole rfl)).1
  simp only [Node.isGrammatical, Bool.and_eq_true] at htest
  exact htest.1.2

theorem Grammatical.fitsRole (h : site.Grammatical shape parent) :
    site.node.fitsRole = true :=
  (Bool.and_eq_true_iff.mp ((Node.everywhere_iff _ _ _).mp h.wellPlaced).1).1

theorem Grammatical.admitsPart (h : child.Grammatical shape (some site)) :
    site.node.admitsPart child.node = true :=
  (Bool.and_eq_true_iff.mp ((Node.everywhere_iff _ _ _).mp h.wellPlaced).1).2

theorem Grammatical.exists_name (h : site.Grammatical shape parent) (hshape : shape ≠ .loose)
    (hkind : site.kind = .methodInvocation) : ∃ nameSite, site.child? .name = some nameSite :=
  h.namesCalls hshape [] site rfl hkind

theorem Grammatical.isName_of_scope (h : site.Grammatical shape parent)
    (hrole : site.node.role = some .scope) : site.kind.isName = true := by
  simpa [kind, Node.fitsRole, hrole] using h.fitsRole

theorem Grammatical.kind_of_role (h : site.Grammatical shape parent)
    (hrole : site.node.role = some .type ∨ site.node.role = some .object ∨
      site.node.role = some .arguments ∨ site.node.role = some .constructor) :
    site.kind ≠ .modifiers ∧ site.kind ≠ .classBody ∧ site.kind ≠ .typeArguments := by
  rcases hrole with hrole | hrole | hrole | hrole <;>
    simpa [kind, Node.fitsRole, hrole] using h.fitsRole

theorem Grammatical.ne_inferredParameters (h : child.Grammatical shape (some site))
    (hother : site.kind ≠ .lambdaExpression ∨ child.node.role ≠ some .parameters)
    (hshape : shape = .whole) : child.kind ≠ .inferredParameters := by
  subst hshape
  intro hkind
  rw [kind] at hkind hother
  have hplace := h.fitsParent
  simp only [Node.fitsParent, hkind, ne_eq, not_true_eq_false, decide_false, Bool.false_or,
    Option.map_some, Option.any_some, Bool.and_eq_true, decide_eq_true_eq] at hplace
  rcases hother with hlambda | hrole
  · exact hlambda hplace.1
  · exact hrole hplace.2

theorem Grammatical.root_ne_inferredParameters (h : site.Grammatical shape none)
    (hshape : shape = .whole) : site.kind ≠ .inferredParameters := by
  subst hshape
  simpa [Node.fitsParent, kind] using h.fitsParent

theorem Grammatical.isPlain_of_arguments (h : child.Grammatical shape (some site))
    (hkind : site.kind.isAnnotationUse = true ∨ site.kind = .methodInvocation ∨
      site.kind = .objectCreation ∨ site.kind = .explicitConstructorInvocation)
    (hrole : child.node.role = some .arguments) : child.kind.isPlain = true := by
  have hpart := h.admitsPart
  rw [kind] at hkind
  rcases hkind with hkind | hkind | hkind | hkind
  · cases hparent : site.node.kind <;> rw [hparent] at hkind <;> cases hkind <;>
      simpa [kind, Node.admitsPart, hparent, hrole] using hpart
  all_goals simpa [kind, Node.admitsPart, hkind, hrole] using hpart

/-!
# Children are apart
-/

theorem eq_of_path {first second : Site} (hfirst : first ∈ site.children)
    (hsecond : second ∈ site.children) (hpath : first.path = second.path) : first = second := by
  rcases path_of_mem_children hfirst with ⟨i, hi, hfirstPath⟩
  rcases path_of_mem_children hsecond with ⟨j, hj, hsecondPath⟩
  have hindex : i = j := by
    rw [hfirstPath, hsecondPath] at hpath
    exact (List.cons.inj hpath).1
  have hnode : first.node = second.node := by
    rw [hindex, hj] at hi
    exact (Option.some.inj hi).symm
  cases first
  cases second
  simp_all

theorem map_node_number (path : Path) (index : Nat) (nodes : List Node) :
    (number path index nodes).map node = nodes := by
  induction nodes generalizing index with
  | nil => rfl
  | cons node rest ih => rw [number, List.map_cons, ih]

theorem map_node_namedChildren (site : Site) :
    site.namedChildren.map node = site.node.children.filter Node.counts := by
  have hfilter : site.namedChildren = site.children.filter (Node.counts ∘ node) := rfl
  rw [hfilter, ← List.filter_map, children, map_node_number]

theorem nodup_number (path : Path) (index : Nat) (nodes : List Node) :
    (number path index nodes).Nodup :=
  (pairwise_number path index nodes).imp fun hpath heq => hpath (congrArg Site.path heq)

theorem nodup_children (site : Site) : site.children.Nodup :=
  nodup_number site.path 0 site.node.children

theorem nodup_namedChildren (site : Site) : site.namedChildren.Nodup :=
  site.nodup_children.filter _

theorem ne_of_mem_childrenExcept {excluded : List (Option Site)} {other : Site}
    (hchild : child ∈ site.childrenExcept excluded) (hother : some other ∈ excluded) :
    child ≠ other := by
  rintro rfl
  have hkept := (List.mem_filter.mp hchild).2
  have hexcluded : excluded.any child.isAt = true :=
    List.any_eq_true.mpr ⟨some child, hother, by simp [isAt, same]⟩
  simp [hexcluded] at hkept

theorem Grammatical.ne_last (h : site.Grammatical .whole parent)
    (hkind : site.kind = .methodReference)
    {qualifier member : Site} {rest : List Site} (hnamed : site.namedChildren = qualifier :: rest)
    (hlast : site.children.getLast? = some member) : qualifier ≠ member := by
  have hbefore : site.children.dropLast.filter (fun child => child.node.counts) ≠ [] := by
    have hcomplete := h.isComplete
    rw [kind] at hkind
    simp only [Node.isComplete, hkind] at hcomplete
    rw [← map_node_number site.path 0 site.node.children, ← List.map_dropLast, List.any_map,
      List.any_eq_true] at hcomplete
    rcases hcomplete with ⟨child, hchild, hcounts⟩
    exact List.ne_nil_of_mem (List.mem_filter.mpr ⟨hchild, hcounts⟩)
  -- Some named child stands before the last one, and the first named child is not after it.
  have hsplit := List.dropLast_append_getLast? member hlast
  have hmem : qualifier ∈ site.children.dropLast := by
    rcases List.exists_cons_of_ne_nil hbefore with ⟨first, others, hothers⟩
    rw [namedChildren, ← hsplit, List.filter_append, hothers, List.cons_append] at hnamed
    rw [← (List.cons.inj hnamed).1]
    exact (List.mem_filter.mp (hothers ▸ List.mem_cons_self)).1
  have hnodup := site.nodup_children
  rw [← hsplit] at hnodup
  rintro rfl
  exact (List.nodup_append.mp hnodup).2.2 qualifier hmem qualifier (List.mem_singleton_self _) rfl

def childrenAs (site : Site) (roles : List Role) : List Site :=
  roles.flatMap fun role => (site.child? role).toList

theorem mem_childrenAs {roles : List Role} :
    child ∈ site.childrenAs roles ↔ ∃ role, role ∈ roles ∧ site.child? role = some child := by
  simp [childrenAs]

theorem nodup_childrenAs (site : Site) {roles : List Role} (hroles : roles.Nodup) :
    (site.childrenAs roles).Nodup := by
  refine List.nodup_flatMap.mpr ⟨?_, ?_⟩
  · intro role _
    cases site.child? role <;> simp
  · refine hroles.imp fun hne => ?_
    intro found hfirst hsecond
    have hroleFirst := role_of_child? (Option.mem_toList.mp hfirst)
    have hroleSecond := role_of_child? (Option.mem_toList.mp hsecond)
    rw [hroleFirst] at hroleSecond
    exact hne (Option.some.inj hroleSecond)

theorem nodup_pair (site : Site) {first second : Role} (hne : first ≠ second) :
    ((site.child? first).toList ++ (site.child? second).toList).Nodup := by
  simpa [childrenAs] using site.nodup_childrenAs (show [first, second].Nodup by simpa using hne)

theorem nodup_append_ofKind (site : Site) {picked : List Site} {kind : NodeKind}
    (hpicked : picked.Nodup)
    (hkinds : ∀ other, other ∈ picked → other.kind ≠ kind) :
    (picked ++ (site.childOfKind? kind).toList).Nodup := by
  refine List.Nodup.append hpicked (by cases site.childOfKind? kind <;> simp) ?_
  intro other hother hfound
  exact hkinds other hother (kind_of_childOfKind? (Option.mem_toList.mp hfound))

theorem nodup_childrenExcept_append {excluded : List (Option Site)} {picked : List Site}
    (hpicked : picked.Nodup) (hexcluded : ∀ other, other ∈ picked → some other ∈ excluded) :
    (site.childrenExcept excluded ++ picked).Nodup := by
  refine List.Nodup.append (site.nodup_namedChildren.filter _) hpicked ?_
  intro other hkept hother
  exact ne_of_mem_childrenExcept hkept (hexcluded other hother) rfl

/-!
# Children that may be visited

The walk visits a site only if it is no body that gets a block of its own.  On a tree that keeps to
the whole grammar it visits no list of inferred parameters either, and no declared name.
-/

structure Visitable (shape : Shape) (parent : Option Site) (site : Site) : Prop where
  grammatical : site.Grammatical shape parent
  kind : shape = .whole → site.kind ≠ .inferredParameters
  body : site.isAnonymousBody parent = false

structure MayVisit (shape : Shape) (site child : Site) : Prop where
  mem : child ∈ site.children
  undeclared : shape = .whole → child ∉ site.declaredNames
  visitable : child.Visitable shape (some site)

theorem not_mem_declaredNames (hkind : site.kind.declares = false) (child : Site) :
    child ∉ site.declaredNames := by
  rw [NodeKind.declares, Bool.or_eq_false_iff] at hkind
  rw [declaredNames, if_neg (by simp [hkind.1])]
  split <;> simp_all [NodeKind.declaresOtherwise]

theorem declaredNames_of_declaresName (hname : site.kind.declaresName = true) :
    site.declaredNames = (site.child? .name).toList := by
  rw [declaredNames, if_pos hname]

theorem declaredNames_of_lambda (hkind : site.kind = .lambdaExpression) :
    site.declaredNames =
      ((site.child? .parameters).filter fun parameter => parameter.kind = .identifier).toList := by
  rw [declaredNames, if_neg (by rw [hkind]; decide)]
  simp only [hkind]

theorem mem_children_of_mem_declaredNames (hchild : child ∈ site.declaredNames) :
    child ∈ site.children := by
  unfold declaredNames at hchild
  split at hchild
  · exact mem_children_of_child? (Option.mem_toList.mp hchild)
  · split at hchild
    · exact mem_children_of_childOfKind? (Option.mem_toList.mp hchild)
    · exact mem_children_of_child?
        (Option.filter_eq_some_iff.mp (Option.mem_toList.mp hchild)).1
    · exact mem_children_of_mem_namedChildren hchild
    · exact mem_children_of_mem_namedChildren (List.mem_filter.mp hchild).1
    · exact mem_children_of_mem_namedChildren (List.mem_filter.mp hchild).1
    · exact mem_children_of_mem_namedChildren (List.mem_of_mem_take hchild)
    · cases hchild

theorem isAnonymousBody_eq_false (hchild : child ∈ site.children)
    (hne : ∀ body, body ∈ site.children → site.anonymousBody? = some body → child ≠ body) :
    child.isAnonymousBody (some site) = false := by
  rw [isAnonymousBody, Option.any_some, isAt]
  cases hbody : site.anonymousBody? with
  | none => rfl
  | some body =>
      have hmem : body ∈ site.children := by
        unfold anonymousBody? at hbody
        split at hbody
        · exact mem_children_of_childOfKind? hbody
        · exact mem_children_of_child? hbody
        · cases hbody
      have hpath : child.path ≠ body.path := fun hpath =>
        hne body hmem hbody (eq_of_path hchild hmem hpath)
      simpa [same] using hpath

theorem isAnonymousBody_of_kind (hkind : site.kind ∉ [.enumConstant, .objectCreation]) :
    child.isAnonymousBody (some site) = false := by
  have hbody : site.anonymousBody? = none := by
    unfold anonymousBody?
    split <;> simp_all
  rw [isAnonymousBody, Option.any_some, hbody]
  rfl

/-- The body of an anonymous class is known by its kind. -/
theorem isAnonymousBody_of_ne_classBody (hcreation : site.kind = .objectCreation)
    (hchild : child ∈ site.children) (hkind : child.kind ≠ .classBody) :
    child.isAnonymousBody (some site) = false := by
  apply isAnonymousBody_eq_false hchild
  rintro body _ hbody rfl
  simp only [anonymousBody?, hcreation] at hbody
  exact hkind (kind_of_childOfKind? hbody)

theorem isAnonymousBody_of_isAt {body : Site} (hbody : site.anonymousBody? = some body) :
    body.isAnonymousBody (some site) = true := by
  simp [isAnonymousBody, hbody, isAt, same]

theorem opensBlock_eq_false (hkind : site.kind.opensNothing = true)
    (hbody : site.isAnonymousBody parent = false) : site.opensBlock parent = false := by
  simp only [NodeKind.opensNothing, Bool.and_eq_true, Bool.not_eq_true'] at hkind
  rw [opensBlock, hkind.1, hbody]
  rfl

theorem opensBlock_of_kind (hkind : site.kind.opensBlock = true) :
    site.opensBlock parent = true := by
  rw [opensBlock, hkind]
  rfl

theorem opensBlock_of_isAnonymousBody (hbody : site.isAnonymousBody parent = true) :
    site.opensBlock parent = true := by
  rw [opensBlock, hbody, Bool.or_true]

theorem Grammatical.mayVisit (h : site.Grammatical shape parent) (hchild : child ∈ site.children)
    (hkind : site.kind ∉ [.lambdaExpression, .enumConstant, .objectCreation])
    (hundeclared : shape = .whole → child ∉ site.declaredNames) : site.MayVisit shape child := by
  rw [List.mem_cons, not_or] at hkind
  exact
    { mem := hchild
      undeclared := hundeclared
      visitable :=
        { grammatical := h.below hchild
          kind := (h.below hchild).ne_inferredParameters (Or.inl hkind.1)
          body := isAnonymousBody_of_kind hkind.2 } }

theorem Grammatical.mayVisit_of_visitsAll (h : site.Grammatical shape parent)
    (hkind : site.kind.visitsAll = true) (hchild : child ∈ site.children) :
    site.MayVisit shape child := by
  apply h.mayVisit hchild
  · simp only [List.mem_cons, List.not_mem_nil, or_false, not_or]
    refine ⟨?_, ?_, ?_⟩ <;> intro heq <;> rw [heq] at hkind <;> cases hkind
  · exact fun _ => not_mem_declaredNames (NodeKind.declares_of_visitsAll hkind) child

-- An enum constant is left out because its body gets a block of its own.
theorem Grammatical.mayVisit_of_declaresName (h : site.Grammatical shape parent)
    (hkind : site.kind.declaresName = true) (hother : site.kind ≠ .enumConstant)
    (hchild : child ∈ site.children) (hname : site.child? .name ≠ some child) :
    site.MayVisit shape child := by
  apply h.mayVisit hchild
  · revert hkind hother
    cases site.kind <;> decide
  · rw [declaredNames_of_declaresName hkind, Option.mem_toList]
    exact fun _ => hname

theorem Grammatical.mayVisit_of_ne_name (h : site.Grammatical shape parent)
    (hkind : site.kind.declaresName = true) (hother : site.kind ≠ .enumConstant) {role : Role}
    (hrole : role ≠ .name) (hchild : site.child? role = some child) :
    site.MayVisit shape child := by
  apply h.mayVisit_of_declaresName hkind hother (mem_children_of_child? hchild)
  intro hname
  have hroles := (role_of_child? hchild).symm.trans (role_of_child? hname)
  exact hrole (Option.some.inj hroles)

theorem Grammatical.mayVisit_of_mem_childrenExcept (h : site.Grammatical shape parent)
    (hkind : site.kind.declaresName = true) (hother : site.kind ≠ .enumConstant)
    {excluded : List (Option Site)} (hexcluded : site.child? .name ∈ excluded)
    (hchild : child ∈ site.childrenExcept excluded) : site.MayVisit shape child := by
  apply h.mayVisit_of_declaresName hkind hother (mem_children_of_mem_childrenExcept hchild)
  intro hname
  exact ne_of_mem_childrenExcept hchild (hname ▸ hexcluded) rfl

theorem Grammatical.mayVisit_of_objectCreation (h : site.Grammatical shape parent)
    (hkind : site.kind = .objectCreation) (hchild : child ∈ site.children)
    (hne : some child ≠ site.childOfKind? .classBody) : site.MayVisit shape child where
  mem := hchild
  undeclared := fun _ => not_mem_declaredNames (by rw [hkind]; rfl) child
  visitable :=
    { grammatical := h.below hchild
      kind := (h.below hchild).ne_inferredParameters (Or.inl (by rw [hkind]; decide))
      body := by
        apply isAnonymousBody_eq_false hchild
        rintro body _ hbody rfl
        simp only [anonymousBody?, hkind] at hbody
        exact hne hbody.symm }

end Site
end RestrictedApi
