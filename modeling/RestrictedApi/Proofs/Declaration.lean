import RestrictedApi.Declarations.Collection
import RestrictedApi.Proofs.Ancestry

/-!
# What a tree declares

The declarations of a syntax tree, in the order in which they are collected, each with the types
around it.  The declarators of one field declaration share its modifiers; every other declaration
holds its own.  No two declarations are recorded at the same node.
-/

namespace RestrictedApi

/-- A type, field, method, constructor or enum constant that a tree declares. -/
structure Declaration where
  /-- The node that introduces the name. -/
  site : Site
  /-- The node whose modifiers hold the annotations. -/
  holder : Site
  name : String
  kind : SymbolKind
  /-- The declarations of the types around, innermost first. -/
  enclosing : List Site

namespace Declaration

/-- The nodes that a declaration is recorded at, the last of which is its own. -/
def recorded (declaration : Declaration) : List Path :=
  if declaration.holder.path = declaration.site.path then [declaration.site.path]
  else [declaration.holder.path, declaration.site.path]

def ofNamed (enclosing : List Site) (kind : SymbolKind) (site : Site) : List Declaration :=
  (site.child? .name).toList.map fun nameSite =>
    { site, holder := site, name := nameSite.text, kind, enclosing }

def ofFields (enclosing : List Site) (site : Site) : List Declaration :=
  (site.childrenIn .declarator).flatMap fun declarator =>
    (declarator.child? .name).toList.map fun nameSite =>
      { site := declarator, holder := site, name := nameSite.text, kind := .field, enclosing }

def ofConstructor (enclosing : List Site) (site : Site) : List Declaration :=
  [{ site, holder := site, name := constructorName, kind := .constructor, enclosing }]

def ofComponents (enclosing : List Site) (site : Site) : List Declaration :=
  (((site.child? .parameters).map Site.namedChildren).getD []).flatMap (ofNamed enclosing .field)

mutual

/-- The declarations of a node and of what it encloses.  Outside of types only types count. -/
def inNode (enclosing : List Site) (path : Path) : Node → List Declaration
  | node@⟨kind, _, _, _, _, _, _, _, children⟩ =>
      let site : Site := ⟨path, node⟩
      if kind.isTypeDeclaration then
        match site.child? .name with
        | none => []
        | some nameSite =>
            { site, holder := site, name := nameSite.text, kind := Collector.typeKind kind
              enclosing } ::
              ((if kind = .recordDeclaration then ofComponents (site :: enclosing) site else []) ++
                inBody (site :: enclosing) path 0 children)
      else
        match enclosing, kind with
        | [], _ => []
        | _ :: _, .enumBodyDeclarations => inNodes enclosing path 0 children
        | _ :: _, .enumConstant => ofNamed enclosing .enumConstant site
        | _ :: _, .fieldDeclaration => ofFields enclosing site
        | _ :: _, .constantDeclaration => ofFields enclosing site
        | _ :: _, .methodDeclaration => ofNamed enclosing .method site
        | _ :: _, .annotationElementDeclaration => ofNamed enclosing .method site
        | _ :: _, .constructorDeclaration => ofConstructor enclosing site
        | _ :: _, .compactConstructorDeclaration => ofConstructor enclosing site
        | _ :: _, _ => []

def inBody (enclosing : List Site) (path : Path) (index : Nat) : List Node → List Declaration
  | [] => []
  | ⟨_, _, role, _, _, _, _, _, members⟩ :: rest =>
      if role = some .body then inNodes enclosing (index :: path) 0 members
      else inBody enclosing path (index + 1) rest

def inNodes (enclosing : List Site) (path : Path) (index : Nat) : List Node → List Declaration
  | [] => []
  | node :: rest =>
      (if node.counts then inNode enclosing (index :: path) node else []) ++
        inNodes enclosing path (index + 1) rest

end

def inUnit (number : Nat) (root : Node) : List Declaration :=
  inNodes [] [number] 0 root.children

/-!
# Where declarations stand
-/

/-- Everything that is recorded of a declaration is at a path or below it. -/
def Under (path : Path) (declaration : Declaration) : Prop :=
  ∀ place, place ∈ declaration.recorded → path <:+ place

theorem mem_recorded {declaration : Declaration} {place : Path} :
    place ∈ declaration.recorded ↔
      place = declaration.holder.path ∨ place = declaration.site.path := by
  unfold recorded
  split
  · rename_i hsame
    rw [List.mem_singleton, hsame, or_self]
  · simp

theorem site_mem_recorded (declaration : Declaration) :
    declaration.site.path ∈ declaration.recorded :=
  mem_recorded.mpr (Or.inr rfl)

theorem recorded_of_own {declaration : Declaration} (hown : declaration.holder = declaration.site) :
    declaration.recorded = [declaration.site.path] := by
  rw [recorded, hown, if_pos rfl]

theorem Under.up {path : Path} {i : Nat} {declaration : Declaration}
    (h : Under (i :: path) declaration) : Under path declaration :=
  fun place hplace => (List.suffix_cons i path).trans (h place hplace)

theorem under_of_own {declaration : Declaration} (hown : declaration.holder = declaration.site) :
    Under declaration.site.path declaration := by
  intro place hplace
  rw [recorded_of_own hown, List.mem_singleton] at hplace
  subst hplace
  exact List.suffix_refl _

end Declaration

theorem Path.eq_of_cons_suffix {path place : Path} {i j : Nat} (hi : (i :: path) <:+ place)
    (hj : (j :: path) <:+ place) : i = j := by
  have hsame : i :: path = j :: path :=
    (List.suffix_of_suffix_length_le hi hj (Nat.le_refl _)).eq_of_length rfl
  exact (List.cons.inj hsame).1

namespace Site

theorem path_of_mem_number {path : Path} {index : Nat} {nodes : List Node} {site : Site}
    (hsite : site ∈ number path index nodes) :
    ∃ i, nodes[i]? = some site.node ∧ site.path = (index + i) :: path := by
  rcases List.mem_iff_getElem?.mp hsite with ⟨i, hi⟩
  rw [getElem?_number] at hi
  rcases Option.map_eq_some_iff.mp hi with ⟨node, hnode, heq⟩
  rw [← heq]
  exact ⟨i, hnode, rfl⟩

theorem path_of_mem_children {site child : Site} (hchild : child ∈ site.children) :
    ∃ i, site.node.children[i]? = some child.node ∧ child.path = i :: site.path := by
  rcases path_of_mem_number hchild with ⟨i, hnode, hpath⟩
  exact ⟨i, hnode, by rw [hpath, Nat.zero_add]⟩

theorem pairwise_number (path : Path) (index : Nat) (nodes : List Node) :
    (number path index nodes).Pairwise fun first second => first.path ≠ second.path := by
  induction nodes generalizing index with
  | nil => exact List.Pairwise.nil
  | cons node rest ih =>
      refine List.Pairwise.cons ?_ (ih (index + 1))
      intro later hlater hsame
      rcases path_of_mem_number hlater with ⟨i, _, hpath⟩
      rw [hpath] at hsame
      have hindex : index = index + 1 + i := (List.cons.inj hsame).1
      omega

theorem pairwise_children (site : Site) :
    site.children.Pairwise fun first second => first.path ≠ second.path :=
  pairwise_number site.path 0 site.node.children

end Site

namespace Declaration

theorem own_of_mem_ofNamed {enclosing : List Site} {kind : SymbolKind} {site : Site}
    {declaration : Declaration} (h : declaration ∈ ofNamed enclosing kind site) :
    declaration.site = site ∧ declaration.holder = site := by
  rcases List.mem_map.mp h with ⟨nameSite, _, heq⟩
  rw [← heq]
  exact ⟨rfl, rfl⟩

theorem under_of_mem_ofNamed {enclosing : List Site} {kind : SymbolKind} {site : Site}
    {declaration : Declaration} (h : declaration ∈ ofNamed enclosing kind site) :
    Under site.path declaration := by
  rcases own_of_mem_ofNamed h with ⟨hsite, hholder⟩
  have hunder := under_of_own (hholder.trans hsite.symm)
  rwa [hsite] at hunder

theorem under_of_mem_ofFields {enclosing : List Site} {site : Site} {declaration : Declaration}
    (h : declaration ∈ ofFields enclosing site) : Under site.path declaration := by
  rcases List.mem_flatMap.mp h with ⟨declarator, hdeclarator, hnamed⟩
  rcases List.mem_map.mp hnamed with ⟨nameSite, _, heq⟩
  rcases Site.path_of_mem_children (Site.mem_children_of_mem_childrenIn hdeclarator) with
    ⟨i, _, hpath⟩
  intro place hplace
  rw [← heq] at hplace
  rcases mem_recorded.mp hplace with hholder | hsite
  · subst hholder
    exact List.suffix_refl _
  · rw [hsite]
    change site.path <:+ declarator.path
    rw [hpath]
    exact List.suffix_cons i site.path

theorem under_of_mem_ofComponents {enclosing : List Site} {site : Site} {declaration : Declaration}
    (h : declaration ∈ ofComponents enclosing site) :
    ∃ i list, site.node.children[i]? = some list ∧ list.role = some .parameters ∧
      Under (i :: site.path) declaration := by
  rcases List.mem_flatMap.mp h with ⟨component, hcomponent, hnamed⟩
  cases hlist : site.child? .parameters with
  | none =>
      rw [hlist] at hcomponent
      cases hcomponent
  | some list =>
      rw [hlist] at hcomponent
      have hcomponent : component ∈ list.namedChildren := hcomponent
      rcases Site.path_of_mem_children (Site.mem_children_of_child? hlist) with ⟨i, hnode, hpath⟩
      refine ⟨i, list.node, hnode, Site.role_of_child? hlist, ?_⟩
      rcases Site.path_of_mem_children (Site.mem_children_of_mem_namedChildren hcomponent) with
        ⟨j, _, hcomponentPath⟩
      have hunder := under_of_mem_ofNamed hnamed
      rw [hcomponentPath, hpath] at hunder
      exact hunder.up

mutual

theorem under_of_mem_inNode {enclosing : List Site} {path : Path} (node : Node)
    {declaration : Declaration} (h : declaration ∈ inNode enclosing path node) :
    Under path declaration := by
  cases node with
  | mk kind named role line column offset length text children =>
      rw [inNode.eq_def] at h
      dsimp only at h
      by_cases hkind : kind.isTypeDeclaration = true
      · rw [if_pos hkind] at h
        split at h
        · cases h
        · rcases List.mem_cons.mp h with heq | hbelow
          · rw [heq]
            exact under_of_own rfl
          · rcases List.mem_append.mp hbelow with hcomponent | hmember
            · split at hcomponent
              · rcases under_of_mem_ofComponents hcomponent with ⟨i, _, _, _, hunder⟩
                exact hunder.up
              · cases hcomponent
            · rcases under_of_mem_inBody children hmember with ⟨i, _, _, _, hunder⟩
              exact hunder.up
      · rw [if_neg hkind] at h
        split at h
        · cases h
        · rcases under_of_mem_inNodes children h with ⟨i, _, hunder⟩
          exact hunder.up
        · exact under_of_mem_ofNamed h
        · exact under_of_mem_ofFields h
        · exact under_of_mem_ofFields h
        · exact under_of_mem_ofNamed h
        · exact under_of_mem_ofNamed h
        · rw [List.mem_singleton.mp h]
          exact under_of_own rfl
        · rw [List.mem_singleton.mp h]
          exact under_of_own rfl
        · cases h

theorem under_of_mem_inBody {enclosing : List Site} {path : Path} {index : Nat}
    (nodes : List Node) {declaration : Declaration}
    (h : declaration ∈ inBody enclosing path index nodes) :
    ∃ i body, nodes[i]? = some body ∧ body.role = some .body ∧
      Under ((index + i) :: path) declaration := by
  cases nodes with
  | nil =>
      rw [inBody] at h
      cases h
  | cons node rest =>
      cases node with
      | mk kind named role line column offset length text members =>
          rw [inBody] at h
          by_cases hrole : role = some .body
          · rw [if_pos hrole] at h
            rcases under_of_mem_inNodes members h with ⟨j, _, hunder⟩
            exact ⟨0, _, rfl, hrole, hunder.up⟩
          · rw [if_neg hrole] at h
            rcases under_of_mem_inBody rest h with ⟨i, body, hbody, hrole', hunder⟩
            refine ⟨i + 1, body, hbody, hrole', ?_⟩
            rwa [Nat.add_assoc, Nat.add_comm 1 i] at hunder

theorem under_of_mem_inNodes {enclosing : List Site} {path : Path} {index : Nat}
    (nodes : List Node) {declaration : Declaration}
    (h : declaration ∈ inNodes enclosing path index nodes) :
    ∃ i, index ≤ i ∧ Under (i :: path) declaration := by
  cases nodes with
  | nil =>
      rw [inNodes] at h
      cases h
  | cons node rest =>
      rw [inNodes] at h
      rcases List.mem_append.mp h with hhere | hlater
      · split at hhere
        · exact ⟨index, Nat.le_refl _, under_of_mem_inNode node hhere⟩
        · cases hhere
      · rcases under_of_mem_inNodes rest hlater with ⟨i, hi, hunder⟩
        exact ⟨i, Nat.le_of_succ_le hi, hunder⟩

end

/-!
# Declarations are apart
-/

/-- What is recorded of the second declaration leaves the node of the first one alone. -/
def Apart (first second : Declaration) : Prop :=
  first.site.path ∉ second.recorded

theorem apart_of_siblings {path : Path} {i j : Nat} {first second : Declaration} (hij : i ≠ j)
    (hfirst : Under (i :: path) first) (hsecond : Under (j :: path) second) :
    Apart first second := by
  intro hmem
  exact hij (Path.eq_of_cons_suffix (hfirst _ first.site_mem_recorded) (hsecond _ hmem))

theorem apart_of_below {path : Path} {i : Nat} {first second : Declaration}
    (hfirst : first.site.path = path) (hsecond : Under (i :: path) second) :
    Apart first second := by
  intro hmem
  have hlength := (hsecond _ hmem).length_le
  rw [hfirst, List.length_cons] at hlength
  omega

theorem pairwise_ofNamed (enclosing : List Site) (kind : SymbolKind) (site : Site) :
    (ofNamed enclosing kind site).Pairwise Apart := by
  unfold ofNamed
  cases site.child? .name with
  | none => exact List.Pairwise.nil
  | some nameSite => exact List.pairwise_singleton _ _

theorem pairwise_ofFields (enclosing : List Site) (site : Site) :
    (ofFields enclosing site).Pairwise Apart := by
  refine List.pairwise_flatMap.mpr ⟨?_, ?_⟩
  · intro declarator _
    cases declarator.child? .name with
    | none => exact List.Pairwise.nil
    | some nameSite => exact List.pairwise_singleton _ _
  · refine (site.pairwise_children.filter _).imp_of_mem ?_
    intro first second hfirst _ hpaths declaration hdeclaration other hother hmem
    rcases List.mem_map.mp hdeclaration with ⟨_, _, heq⟩
    rcases List.mem_map.mp hother with ⟨_, _, heq'⟩
    rw [← heq, ← heq'] at hmem
    rcases mem_recorded.mp hmem with hholder | hsite
    · rcases Site.path_of_mem_children (Site.mem_children_of_mem_childrenIn hfirst) with
        ⟨i, _, hpath⟩
      have hcycle : i :: site.path = site.path := hpath.symm.trans hholder
      exact absurd hcycle (List.cons_ne_self i site.path)
    · exact hpaths hsite

theorem pairwise_ofComponents (enclosing : List Site) (site : Site) :
    (ofComponents enclosing site).Pairwise Apart := by
  refine List.pairwise_flatMap.mpr ⟨fun component _ => pairwise_ofNamed _ _ component, ?_⟩
  cases site.child? .parameters with
  | none => exact List.Pairwise.nil
  | some list =>
      refine (list.pairwise_children.filter _).imp ?_
      intro first second hpaths declaration hdeclaration other hother hmem
      rcases own_of_mem_ofNamed hdeclaration with ⟨hfirst, _⟩
      rcases own_of_mem_ofNamed hother with ⟨hsecond, hholder⟩
      rw [recorded_of_own (hholder.trans hsecond.symm), List.mem_singleton, hfirst, hsecond] at hmem
      exact hpaths hmem

mutual

theorem pairwise_inNode (enclosing : List Site) (path : Path) (node : Node) :
    (inNode enclosing path node).Pairwise Apart := by
  cases node with
  | mk kind named role line column offset length text children =>
      rw [inNode.eq_def]
      dsimp only
      by_cases hkind : kind.isTypeDeclaration = true
      · rw [if_pos hkind]
        split
        · exact List.Pairwise.nil
        · refine List.Pairwise.cons ?_ (List.pairwise_append.mpr ⟨?_, ?_, ?_⟩)
          · intro declaration hbelow
            rcases List.mem_append.mp hbelow with hcomponent | hmember
            · split at hcomponent
              · rcases under_of_mem_ofComponents hcomponent with ⟨i, _, _, _, hunder⟩
                exact apart_of_below rfl hunder
              · cases hcomponent
            · rcases under_of_mem_inBody children hmember with ⟨i, _, _, _, hunder⟩
              exact apart_of_below rfl hunder
          · split
            · exact pairwise_ofComponents _ _
            · exact List.Pairwise.nil
          · exact pairwise_inBody _ path 0 children
          -- The list of components and the body are children in different roles.
          · intro component hcomponent member hmember
            split at hcomponent
            · rcases under_of_mem_ofComponents hcomponent with ⟨i, list, hlist, hrole, hunder⟩
              rcases under_of_mem_inBody children hmember with ⟨j, body, hbody, hrole', hunder'⟩
              rw [Nat.zero_add] at hunder'
              refine apart_of_siblings ?_ hunder hunder'
              intro hsame
              rw [← hsame] at hbody
              have hnode : list = body := Option.some.inj (hlist.symm.trans hbody)
              rw [hnode, hrole'] at hrole
              cases hrole
            · cases hcomponent
      · rw [if_neg hkind]
        split
        · exact List.Pairwise.nil
        · exact pairwise_inNodes _ path 0 children
        · exact pairwise_ofNamed _ _ _
        · exact pairwise_ofFields _ _
        · exact pairwise_ofFields _ _
        · exact pairwise_ofNamed _ _ _
        · exact pairwise_ofNamed _ _ _
        · exact List.pairwise_singleton _ _
        · exact List.pairwise_singleton _ _
        · exact List.Pairwise.nil

theorem pairwise_inBody (enclosing : List Site) (path : Path) (index : Nat) (nodes : List Node) :
    (inBody enclosing path index nodes).Pairwise Apart := by
  cases nodes with
  | nil =>
      rw [inBody]
      exact List.Pairwise.nil
  | cons node rest =>
      cases node with
      | mk kind named role line column offset length text members =>
          rw [inBody]
          split
          · exact pairwise_inNodes _ _ 0 members
          · exact pairwise_inBody _ path (index + 1) rest

theorem pairwise_inNodes (enclosing : List Site) (path : Path) (index : Nat) (nodes : List Node) :
    (inNodes enclosing path index nodes).Pairwise Apart := by
  cases nodes with
  | nil =>
      rw [inNodes]
      exact List.Pairwise.nil
  | cons node rest =>
      rw [inNodes]
      refine List.pairwise_append.mpr ⟨?_, pairwise_inNodes _ path (index + 1) rest, ?_⟩
      · split
        · exact pairwise_inNode _ _ node
        · exact List.Pairwise.nil
      · intro declaration hhere other hlater
        split at hhere
        · rcases under_of_mem_inNodes rest hlater with ⟨i, hi, hunder⟩
          exact apart_of_siblings (Nat.ne_of_lt hi) (under_of_mem_inNode node hhere) hunder
        · cases hhere

end

theorem under_of_mem_inUnit {number : Nat} {root : Node} {declaration : Declaration}
    (h : declaration ∈ inUnit number root) : Under [number] declaration := by
  rcases under_of_mem_inNodes root.children h with ⟨i, _, hunder⟩
  exact hunder.up

theorem apart_of_units {number other : Nat} {first second : Declaration} (hnumber : number ≠ other)
    (hfirst : Under [number] first) (hsecond : Under [other] second) : Apart first second :=
  apart_of_siblings hnumber hfirst hsecond

end Declaration

end RestrictedApi
