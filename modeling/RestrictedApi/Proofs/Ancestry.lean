import RestrictedApi.Tree

/-!
# Ways through a tree

A site is reached from another one by the numbers of the children on the way down.  This module
gives the laws of the ways of picking children, the sites above a site, and tests that hold at every
node of a tree.
-/

namespace RestrictedApi

/-!
# Children
-/

namespace Site

theorem getElem?_number (path : Path) (index : Nat) (nodes : List Node) (i : Nat) :
    (number path index nodes)[i]? = nodes[i]?.map fun node => ⟨(index + i) :: path, node⟩ := by
  induction nodes generalizing index i with
  | nil => simp [number]
  | cons node rest ih =>
      cases i with
      | zero => simp [number]
      | succ i =>
          rw [number, List.getElem?_cons_succ, ih, List.getElem?_cons_succ]
          have hindex : index + 1 + i = index + (i + 1) := by omega
          rw [hindex]

theorem getElem?_children (site : Site) (i : Nat) :
    site.children[i]? = site.node.children[i]?.map fun node => ⟨i :: site.path, node⟩ := by
  rw [children, getElem?_number, Nat.zero_add]

theorem node_mem_of_mem_children {site child : Site} (hchild : child ∈ site.children) :
    child.node ∈ site.node.children := by
  rcases List.mem_iff_getElem?.mp hchild with ⟨i, hi⟩
  rw [getElem?_children] at hi
  rcases Option.map_eq_some_iff.mp hi with ⟨node, hnode, heq⟩
  rw [← heq]
  exact List.mem_iff_getElem?.mpr ⟨i, hnode⟩

theorem mem_children_of_mem_namedChildren {site child : Site}
    (hchild : child ∈ site.namedChildren) : child ∈ site.children :=
  (List.mem_filter.mp hchild).1

theorem mem_children_of_mem_childrenExcept {site child : Site} {excluded : List (Option Site)}
    (hchild : child ∈ site.childrenExcept excluded) : child ∈ site.children :=
  mem_children_of_mem_namedChildren (List.mem_filter.mp hchild).1

theorem mem_children_of_mem_childrenIn {site child : Site} {role : Role}
    (hchild : child ∈ site.childrenIn role) : child ∈ site.children :=
  (List.mem_filter.mp hchild).1

theorem role_of_mem_childrenIn {site child : Site} {role : Role}
    (hchild : child ∈ site.childrenIn role) : child.node.role = some role := by
  simpa using (List.mem_filter.mp hchild).2

theorem mem_children_of_child? {site child : Site} {role : Role}
    (hchild : site.child? role = some child) : child ∈ site.children :=
  List.mem_of_find?_eq_some hchild

theorem role_of_child? {site child : Site} {role : Role}
    (hchild : site.child? role = some child) : child.node.role = some role := by
  simpa using List.find?_some hchild

theorem mem_children_of_childOfKind? {site child : Site} {kind : NodeKind}
    (hchild : site.childOfKind? kind = some child) : child ∈ site.children :=
  mem_children_of_mem_namedChildren (List.mem_of_find?_eq_some hchild)

theorem kind_of_childOfKind? {site child : Site} {kind : NodeKind}
    (hchild : site.childOfKind? kind = some child) : child.kind = kind := by
  simpa using List.find?_some hchild

/-!
# The way down

The sites above a site are those that are met on the way down to it, outermost first.
-/

/-- The site that is reached by going down to the children of the given numbers. -/
def descend? : Site → List Nat → Option Site
  | site, [] => some site
  | site, i :: steps => site.children[i]?.bind fun child => child.descend? steps

/-- The sites that are left behind on the way down, outermost first. -/
def ancestors : Site → List Nat → List Site
  | _, [] => []
  | site, i :: steps =>
      match site.children[i]? with
      | none => [site]
      | some child => site :: child.ancestors steps

theorem descend?_cons_of_child {site child : Site} {i : Nat}
    (hchild : site.children[i]? = some child) (steps : List Nat) :
    site.descend? (i :: steps) = child.descend? steps := by
  rw [descend?, hchild, Option.bind_some]

theorem exists_step_of_mem_children {site child : Site} (hchild : child ∈ site.children) :
    ∃ i, site.children[i]? = some child ∧
      ∀ steps, site.descend? (i :: steps) = child.descend? steps := by
  rcases List.mem_iff_getElem?.mp hchild with ⟨i, hi⟩
  exact ⟨i, hi, descend?_cons_of_child hi⟩

theorem ancestors_cons_of_child {site child : Site} {i : Nat}
    (hchild : site.children[i]? = some child) (steps : List Nat) :
    site.ancestors (i :: steps) = site :: child.ancestors steps := by
  rw [ancestors, hchild]

theorem path_of_descend? {top site : Site} {steps : List Nat}
    (hsite : top.descend? steps = some site) : site.path = steps.reverse ++ top.path := by
  induction steps generalizing top with
  | nil =>
      cases hsite
      rfl
  | cons i steps ih =>
      rw [descend?] at hsite
      rcases Option.bind_eq_some_iff.mp hsite with ⟨child, hchild, hrest⟩
      rw [getElem?_children] at hchild
      rcases Option.map_eq_some_iff.mp hchild with ⟨node, _, hnode⟩
      rw [ih hrest, ← hnode, List.reverse_cons, List.append_assoc]
      rfl

theorem descend?_append {top site : Site} {steps : List Nat}
    (hsite : top.descend? steps = some site) (others : List Nat) :
    top.descend? (steps ++ others) = site.descend? others := by
  induction steps generalizing top with
  | nil =>
      cases hsite
      rfl
  | cons i steps ih =>
      rw [descend?] at hsite
      rcases Option.bind_eq_some_iff.mp hsite with ⟨child, hchild, hrest⟩
      rw [List.cons_append, descend?_cons_of_child hchild]
      exact ih hrest

theorem descend?_concat {top site : Site} {steps : List Nat}
    (hsite : top.descend? steps = some site)
    (i : Nat) : top.descend? (steps ++ [i]) = site.children[i]? := by
  rw [descend?_append hsite]
  simp [descend?]

theorem ancestors_concat {top site : Site} {steps : List Nat}
    (hsite : top.descend? steps = some site)
    (i : Nat) : top.ancestors (steps ++ [i]) = top.ancestors steps ++ [site] := by
  induction steps generalizing top with
  | nil =>
      cases hsite
      cases hchild : site.children[i]? <;> simp [ancestors, hchild]
  | cons j steps ih =>
      rw [descend?] at hsite
      rcases Option.bind_eq_some_iff.mp hsite with ⟨child, hchild, hrest⟩
      rw [List.cons_append, ancestors_cons_of_child hchild, ancestors_cons_of_child hchild,
        ih hrest]
      rfl

theorem steps_of_descend? {root site : Site} {number : Nat} {steps : List Nat}
    (hroot : root.path = [number]) (hsite : root.descend? steps = some site) :
    site.path.dropLast.reverse = steps := by
  rw [path_of_descend? hsite, hroot, List.dropLast_concat, List.reverse_reverse]

theorem eq_of_descend? {top first second : Site} {steps others : List Nat}
    (hfirst : top.descend? steps = some first) (hsecond : top.descend? others = some second)
    (hpath : first.path = second.path) : first = second := by
  rw [path_of_descend? hfirst, path_of_descend? hsecond] at hpath
  have hsteps := List.reverse_inj.mp (List.append_cancel_right hpath)
  rw [hsteps, hsecond] at hfirst
  exact (Option.some.inj hfirst).symm

end Site

/-!
# Chains

Every link of a chain but the first is a child of the link before, and its kind continues the chain.
-/

/-- A site that is reached from another by children whose kind satisfies a test. -/
inductive Site.Continues (continues : NodeKind → Bool) : Site → Site → Prop where
  | refl (site : Site) : Continues continues site site
  | child {site child link : Site} :
      child ∈ site.children →
      continues child.kind = true →
      Continues continues child link →
      Continues continues site link

mutual

theorem Node.continues_of_mem_chain {role : Role} {continues : NodeKind → Bool} {path : Path}
    (node : Node) {link : Site} (hlink : link ∈ node.chain role continues path) :
    Site.Continues continues ⟨path, node⟩ link := by
  cases node with
  | mk kind named own line column offset length text children =>
      rw [Node.chain] at hlink
      rcases List.mem_cons.mp hlink with heq | hrest
      · rw [heq]
        exact Site.Continues.refl _
      · exact Node.continues_of_mem_chainIn children (fun child hchild => hchild) hrest

theorem Node.continues_of_mem_chainIn {role : Role} {continues : NodeKind → Bool} {path : Path}
    {site : Site} (nodes : List Node) {index : Nat} {link : Site}
    (hnodes : ∀ child, child ∈ Site.number path index nodes → child ∈ site.children)
    (hlink : link ∈ Node.chainIn role continues path index nodes) :
    Site.Continues continues site link := by
  cases nodes with
  | nil =>
      rw [Node.chainIn] at hlink
      cases hlink
  | cons node rest =>
      have hhere : ⟨index :: path, node⟩ ∈ site.children :=
        hnodes _ (List.mem_cons_self)
      rw [Node.chainIn] at hlink
      by_cases hrole : node.role = some role
      · rw [if_pos hrole] at hlink
        cases hcontinues : continues node.kind with
        | true =>
            rw [hcontinues, if_pos rfl] at hlink
            exact Site.Continues.child hhere hcontinues (Node.continues_of_mem_chain node hlink)
        | false =>
            rw [hcontinues] at hlink
            cases hlink
      · rw [if_neg hrole] at hlink
        exact Node.continues_of_mem_chainIn rest
          (fun child hchild => hnodes child (List.mem_cons_of_mem _ hchild)) hlink

end

theorem Site.continues_of_mem_chain {site link : Site} {role : Role}
    {continues : NodeKind → Bool} (hlink : link ∈ site.chain role continues) :
    Site.Continues continues site link :=
  Node.continues_of_mem_chain site.node hlink

/-!
# Tests at every node

A test of a node may depend on its parent; the root of a tree has none.
-/

namespace Node

mutual

def everywhere (test : Option Node → Node → Bool) (parent : Option Node) : Node → Bool
  | node@⟨_, _, _, _, _, _, _, _, children⟩ => test parent node && everywhereIn test node children

def everywhereIn (test : Option Node → Node → Bool) (parent : Node) : List Node → Bool
  | [] => true
  | child :: rest => everywhere test (some parent) child && everywhereIn test parent rest

end

theorem everywhereIn_iff (test : Option Node → Node → Bool) (parent : Node) (nodes : List Node) :
    everywhereIn test parent nodes = true ↔
      ∀ node, node ∈ nodes → everywhere test (some parent) node = true := by
  induction nodes with
  | nil => simp [everywhereIn]
  | cons node rest ih => simp [everywhereIn, ih]

theorem everywhere_iff (test : Option Node → Node → Bool) (parent : Option Node) (node : Node) :
    everywhere test parent node = true ↔
      test parent node = true ∧
        ∀ child, child ∈ node.children → everywhere test (some node) child = true := by
  cases node with
  | mk kind named role line column offset length text children =>
      rw [everywhere, Bool.and_eq_true, everywhereIn_iff]

mutual

theorem everywhere_mono {test other : Option Node → Node → Bool}
    (htests : ∀ parent node, test parent node = true → other parent node = true)
    {parent : Option Node} (node : Node) (hnode : everywhere test parent node = true) :
    everywhere other parent node = true := by
  cases node with
  | mk kind named role line column offset length text children =>
      rw [everywhere, Bool.and_eq_true] at hnode ⊢
      exact ⟨htests _ _ hnode.1, everywhereIn_mono htests children hnode.2⟩

theorem everywhereIn_mono {test other : Option Node → Node → Bool}
    (htests : ∀ parent node, test parent node = true → other parent node = true)
    {parent : Node} (nodes : List Node) (hnodes : everywhereIn test parent nodes = true) :
    everywhereIn other parent nodes = true := by
  cases nodes with
  | nil => rfl
  | cons child rest =>
      rw [everywhereIn, Bool.and_eq_true] at hnodes ⊢
      exact ⟨everywhere_mono htests child hnodes.1, everywhereIn_mono htests rest hnodes.2⟩

end

end Node

theorem Site.everywhere_of_mem_children {test : Option Node → Node → Bool} {parent : Option Node}
    {site child : Site} (hsite : site.node.everywhere test parent = true)
    (hchild : child ∈ site.children) : child.node.everywhere test (some site.node) = true :=
  ((Node.everywhere_iff test parent site.node).mp hsite).2 child.node
    (node_mem_of_mem_children hchild)

theorem Site.everywhere_of_descend? {test : Option Node → Node → Bool} {parent : Option Node}
    {site place : Site} {steps : List Nat} (hsite : site.node.everywhere test parent = true)
    (hplace : site.descend? steps = some place) :
    ∃ above, place.node.everywhere test above = true := by
  induction steps generalizing site parent with
  | nil =>
      cases hplace
      exact ⟨parent, hsite⟩
  | cons i steps ih =>
      rw [descend?] at hplace
      rcases Option.bind_eq_some_iff.mp hplace with ⟨child, hchild, hbelow⟩
      exact ih (everywhere_of_mem_children hsite (List.mem_of_getElem? hchild)) hbelow

end RestrictedApi
