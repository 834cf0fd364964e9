import RestrictedApi.Proofs.SideBySide
import RestrictedApi.Proofs.WrittenTypes

/-!
# Edited trees

An edit of a syntax tree leaves nodes out, with all that is below them, and may take the marks of
errors away.  The sites that are left have twins in the edited tree.  This module says what can be
left out so that all that is read off a site can be read off its twin: errors that hold nothing that
has a name or a rule of its own, below nodes that neither count their children nor tell them apart
by their order.
-/

namespace RestrictedApi

namespace NodeKind

def isUnknown : NodeKind → Bool
  | .error | .other => true
  | _ => false

/-- The order or the number of the children matters: the walk takes the first one or the last one,
or each of them changes what the one before it has led to. -/
def ordersChildren : NodeKind → Bool
  | .formalParameter | .spreadParameter | .catchFormalParameter | .catchType | .inferredParameters
  | .enhancedForStatement | .resource | .labeledStatement | .scopedTypeIdentifier | .genericType
  | .annotatedType | .methodReference | .parenthesizedExpression | .typePattern
  | .recordPatternComponent => true
  | _ => false

@[elab_as_elim]
theorem unknown_elim {motive : NodeKind → Prop} {kind : NodeKind} (h : kind.isUnknown = true)
    (error : motive .error) (other : motive .other) : motive kind := by
  cases kind with
  | error => exact error
  | other => exact other
  | _ => cases h

theorem ne_of_isUnknown {own kind : NodeKind} (hown : own.isUnknown = true)
    (hkind : kind.isUnknown = false) : own ≠ kind := by
  rintro rfl
  exact Bool.false_ne_true (hkind.symm.trans hown)

end NodeKind

/-!
# Edits
-/

structure Edit where
  drops : Node → Bool
  /-- Errors become nodes of no kind in particular. -/
  unmarks : Bool

namespace Edit

def kind (edit : Edit) : NodeKind → NodeKind
  | .error => if edit.unmarks then .other else .error
  | kind => kind

@[elab_as_elim]
theorem kind_elim (edit : Edit) {motive : NodeKind → NodeKind → Prop} (kind : NodeKind)
    (same : motive kind kind) (unmarked : motive .error .other) : motive kind (edit.kind kind) := by
  cases kind with
  | error =>
      rw [Edit.kind]
      split
      · exact unmarked
      · exact same
  | _ => exact same

end Edit

namespace Node

mutual

/-- The tree after an edit.  A node itself is kept even if it would be left out as a child. -/
def edited (edit : Edit) : Node → Node
  | ⟨kind, named, role, line, column, offset, length, text, children⟩ =>
      ⟨edit.kind kind, named, role, line, column, offset, length, text, editedIn edit children⟩

def editedIn (edit : Edit) : List Node → List Node
  | [] => []
  | child :: rest =>
      if edit.drops child then editedIn edit rest else edited edit child :: editedIn edit rest

end

theorem edited_eq (edit : Edit) (node : Node) :
    node.edited edit =
      { node with kind := edit.kind node.kind, children := editedIn edit node.children } := by
  cases node
  rw [edited]

theorem kind_edited (edit : Edit) (node : Node) :
    (node.edited edit).kind = edit.kind node.kind := by
  rw [edited_eq]

theorem text_edited (edit : Edit) (node : Node) : (node.edited edit).text = node.text := by
  rw [edited_eq]

theorem counts_edited (edit : Edit) (node : Node) : (node.edited edit).counts = node.counts := by
  rw [edited_eq, counts, counts]
  exact edit.kind_elim node.kind rfl rfl

/-!
# Idle nodes
-/

/-- Arguments are counted, and of a superclass the first child is read. -/
def ordersChildren (node : Node) : Bool :=
  node.kind.ordersChildren || node.role = some .arguments || node.role = some .superclass

/-- A node without a role that the walk has no rule for, or does not look at. -/
def isQuiet (node : Node) : Bool :=
  node.role = none && (!node.counts || node.kind.isUnknown)

def isQuietTree (node : Node) : Bool :=
  node.everywhere (fun _ => isQuiet) none

theorem quiet_of_isQuietTree {node : Node} (h : node.isQuietTree = true) :
    node.role = none ∧ (node.counts = true → node.kind.isUnknown = true) := by
  have hquiet := ((everywhere_iff _ _ _).mp h).1
  simp only [isQuiet, Bool.and_eq_true, decide_eq_true_eq] at hquiet
  refine hquiet.imp_right fun hkind hcounts => ?_
  rwa [hcounts, Bool.not_true, Bool.false_or] at hkind

theorem isQuietTree_of_mem_children {node child : Node} (h : node.isQuietTree = true)
    (hchild : child ∈ node.children) : child.isQuietTree = true := by
  have hbelow := ((everywhere_iff _ _ _).mp h).2 child hchild
  cases child
  exact hbelow

/-- A node that is passed through without anything being found. -/
structure Idle (node : Node) : Prop where
  kind : node.kind.isUnknown = true
  quiet : node.isQuietTree = true

namespace Idle

variable {node : Node} {site : Site}

theorem of_mem_children (h : node.Idle) {child : Node} (hchild : child ∈ node.children)
    (hcounts : child.counts = true) : child.Idle := by
  have htree := isQuietTree_of_mem_children h.quiet hchild
  exact ⟨(quiet_of_isQuietTree htree).2 hcounts, htree⟩

theorem of_mem_namedChildren (h : site.node.Idle) {child : Site}
    (hchild : child ∈ site.namedChildren) : child.node.Idle :=
  h.of_mem_children
    (Site.node_mem_of_mem_children (Site.mem_children_of_mem_namedChildren hchild))
    (Site.counts_of_mem_namedChildren hchild)

theorem child?_eq_none (h : site.node.Idle) (role : Role) : site.child? role = none := by
  cases hchild : site.child? role with
  | none => rfl
  | some child =>
      have hmem := Site.node_mem_of_mem_children (Site.mem_children_of_child? hchild)
      have hrole := (quiet_of_isQuietTree (isQuietTree_of_mem_children h.quiet hmem)).1
      rw [Site.role_of_child? hchild] at hrole
      cases hrole

theorem childOfKind?_eq_none (h : site.node.Idle) {kind : NodeKind}
    (hkind : kind.isUnknown = false) : site.childOfKind? kind = none := by
  rw [Site.childOfKind?, List.find?_eq_none]
  intro child hchild
  exact fun hown => NodeKind.ne_of_isUnknown (h.of_mem_namedChildren hchild).kind hkind
    (of_decide_eq_true hown)

theorem typeName_eq_none (h : node.Idle) : node.typeName? = none := by
  rw [Node.typeName_eq]
  exact NodeKind.unknown_elim h.kind rfl rfl

mutual

theorem strings_eq_nil (node : Node) (h : node.Idle) : node.strings = [] := by
  cases node with
  | mk kind named role line column offset length text children =>
      have hkind : kind ≠ .stringLiteral := NodeKind.ne_of_isUnknown h.kind rfl
      rw [strings, if_neg hkind]
      exact stringsIn_eq_nil children fun child hchild => h.of_mem_children hchild

theorem stringsIn_eq_nil (nodes : List Node) (h : ∀ node ∈ nodes, node.counts = true → node.Idle) :
    stringsIn nodes = [] := by
  cases nodes with
  | nil => rw [stringsIn]
  | cons node rest =>
      have hrest := stringsIn_eq_nil rest fun child hchild => h child (.tail _ hchild)
      rw [stringsIn, hrest]
      split
      · rw [strings_eq_nil node (h node List.mem_cons_self ‹_›), List.nil_append]
      · rfl

end

end Idle

end Node

/-!
# Lists of nodes
-/

/-- The node after the edit, off which the same is read. -/
def Edit.Reads {α : Type} (edit : Edit) (read : Node → α) (node twin : Node) : Prop :=
  twin = node.edited edit ∧ read twin = read node

namespace Node

variable {edit : Edit} {nodes twins : List Node}

theorem typeSegments_eq_of_thinned (h : Thinned (edit.Reads typeName?) Idle nodes twins) :
    typeSegments? twins = typeSegments? nodes := by
  induction h with
  | nil => rfl
  | @keep node _ _ _ hkeep _ ih =>
      rcases hkeep with ⟨rfl, hname⟩
      rw [typeSegments?, typeSegments?, hname, ih, counts_edited, text_edited, kind_edited]
      exact edit.kind_elim node.kind rfl rfl
  | drop hdrop _ ih =>
      rw [typeSegments?, ih]
      exact NodeKind.unknown_elim hdrop.kind (ite_self _).symm (ite_self _).symm

theorem genericBase_eq_of_thinned (h : Thinned (edit.Reads typeName?) Idle nodes twins) :
    genericBase? twins = genericBase? nodes := by
  induction h with
  | nil => rfl
  | @keep node _ _ _ hkeep _ ih =>
      rcases hkeep with ⟨rfl, hname⟩
      rw [genericBase?, genericBase?, hname, ih, counts_edited, kind_edited]
      exact edit.kind_elim node.kind rfl rfl
  | drop hdrop _ ih =>
      rw [genericBase?, ih, hdrop.typeName_eq_none]
      exact NodeKind.unknown_elim hdrop.kind (by simp) (by simp)

theorem annotatedBase_eq_of_forall₂ (h : List.Forall₂ (edit.Reads typeName?) nodes twins) :
    annotatedBase? twins = annotatedBase? nodes := by
  have htest : ∀ {node twin : Node}, edit.Reads typeName? node twin →
      (twin.counts && !twin.kind.isAnnotationUse) =
        (node.counts && !node.kind.isAnnotationUse) := by
    rintro node twin ⟨rfl, _⟩
    rw [counts_edited, kind_edited]
    exact edit.kind_elim node.kind rfl rfl
  induction h with
  | nil => rfl
  | cons hfirst hrest ih =>
      have hlater := (Thinned.of_forall₂ hrest).any_eq htest False.elim
      rw [annotatedBase?, annotatedBase?, htest hfirst, hfirst.2, ih, hlater]

theorem strings_eq (node : Node) :
    node.strings =
      if node.kind = .stringLiteral then [Text.strip (· = '"') node.text]
      else stringsIn node.children := by
  cases node
  rw [strings]

theorem stringsIn_eq_of_thinned (h : Thinned (edit.Reads strings) Idle nodes twins) :
    stringsIn twins = stringsIn nodes := by
  induction h with
  | nil => rfl
  | keep hkeep _ ih =>
      rcases hkeep with ⟨rfl, hstrings⟩
      rw [stringsIn, stringsIn, counts_edited, hstrings, ih]
  | drop hdrop _ ih => rw [stringsIn, hdrop.strings_eq_nil, List.nil_append, ite_self, ih]

theorem typeList_eq (node : Node) : node.typeList = typeListIn node.children := by
  cases node
  rw [typeList]

theorem typeListIn_eq_of_thinned
    (h : Thinned (edit.Reads fun node => (node.typeName?, node.typeList)) Idle nodes twins) :
    typeListIn twins = typeListIn nodes := by
  induction h with
  | nil => rfl
  | @keep node _ _ _ hkeep _ ih =>
      rcases hkeep with ⟨rfl, hread⟩
      rcases Prod.mk.inj hread with ⟨hname, hlist⟩
      rw [typeListIn, typeListIn, counts_edited, hname, hlist, ih, kind_edited]
      exact edit.kind_elim node.kind rfl rfl
  | drop hdrop _ ih =>
      rw [typeListIn, hdrop.typeName_eq_none, ih]
      exact NodeKind.unknown_elim hdrop.kind (by simp) (by simp)

end Node

/-!
# Twins
-/

/-- A child that can be left out, if anything can. -/
structure Site.Omits (lossy : Prop) (site child : Site) : Prop where
  allowed : lossy
  plain : site.node.ordersChildren = false
  idle : child.node.Idle

section Omits

variable {lossy : Prop} {site child : Site}

theorem Site.Omits.role (h : site.Omits lossy child) : child.node.role = none :=
  (Node.quiet_of_isQuietTree h.idle.quiet).1

theorem Site.Omits.test (h : site.Omits lossy child) (test : NodeKind → Bool)
    (herror : test .error = false) (hother : test .other = false) : test child.kind = false := by
  have hkind : child.kind.isUnknown = true := h.idle.kind
  exact NodeKind.unknown_elim hkind herror hother

theorem Thinned.ordered {α : Type} {rel : Site → α → Prop} {items : List Site} {twins : List α}
    (h : Thinned rel (site.Omits lossy) items twins)
    (horders : site.node.ordersChildren = true) : List.Forall₂ rel items twins :=
  h.forall₂ fun homits => Bool.false_ne_true (homits.plain.symm.trans horders)

end Omits

theorem Site.ordersChildren_of_kind {site : Site} (hkind : site.kind.ordersChildren = true) :
    site.node.ordersChildren = true := by
  rw [Node.ordersChildren, show site.node.kind.ordersChildren = true from hkind]
  rfl

theorem Site.ordersChildren_of_role {site : Site}
    (hrole : site.node.role = some .arguments ∨ site.node.role = some .superclass) :
    site.node.ordersChildren = true := by
  rcases hrole with hrole | hrole <;> simp [Node.ordersChildren, hrole]

/-- The sites of trees and their twins in the edited trees. -/
structure Twinning where
  edit : Edit
  lossy : Prop
  twins : Site → Site → Prop
  node : ∀ {site twin}, twins site twin → twin.node = site.node.edited edit
  children : ∀ {site twin}, twins site twin →
    Thinned twins (site.Omits lossy) site.children twin.children
  /-- No two sites have the same twin, and none has two. -/
  path : ∀ {site twin other otherTwin}, twins site twin → twins other otherTwin →
    (twin.path = otherTwin.path ↔ site.path = other.path)

def Twinning.restrict (t : Twinning) (among : Site → Prop)
    (hchildren : ∀ {site child}, among site → child ∈ site.children → among child) : Twinning where
  edit := t.edit
  lossy := t.lossy
  twins site twin := t.twins site twin ∧ among site
  node h := t.node h.1
  children h := (t.children h.1).imp_mem
    (fun hchild htwins => ⟨htwins, hchildren h.2 hchild⟩) fun _ homits => homits
  path h hother := t.path h.1 hother.1

namespace Twinning.twins

variable {t : Twinning} {site twin : Site}

theorem induct {motive : (site twin : Site) → t.twins site twin → Prop}
    (step : ∀ site twin (h : t.twins site twin),
      (∀ {child childTwin}, child ∈ site.children → ∀ hchild : t.twins child childTwin,
        motive child childTwin hchild) → motive site twin h)
    {site twin : Site} (h : t.twins site twin) : motive site twin h := by
  induction hsize : sizeOf site.node using Nat.strongRecOn generalizing site twin with
  | _ size ih =>
      apply step site twin h
      intro child childTwin hchild hchildTwin
      refine ih _ ?_ hchildTwin rfl
      have hlt := List.sizeOf_lt_of_mem (Site.node_mem_of_mem_children hchild)
      cases hnode : site.node with
      | mk kind named role line column offset length text children =>
          rw [hnode] at hlt
          change sizeOf child.node < sizeOf children at hlt
          rw [← hsize, hnode, Node.mk.sizeOf_spec]
          omega

theorem kind_eq (h : t.twins site twin) : twin.kind = t.edit.kind site.kind := by
  rw [Site.kind, t.node h, Node.kind_edited, Site.kind]

/-- What does not tell errors from nodes of no kind in particular. -/
theorem read_kind {α : Type} (h : t.twins site twin) (read : NodeKind → α)
    (hread : read .other = read .error) : read twin.kind = read site.kind := by
  rw [h.kind_eq]
  exact t.edit.kind_elim site.kind rfl hread

theorem kind_iff (h : t.twins site twin) (kind : NodeKind) (hkind : kind.isUnknown = false) :
    twin.kind = kind ↔ site.kind = kind := by
  refine decide_eq_decide.mp (h.read_kind (fun own => decide (own = kind)) ?_)
  rw [decide_eq_false (NodeKind.ne_of_isUnknown rfl hkind),
    decide_eq_false (NodeKind.ne_of_isUnknown rfl hkind)]

theorem role_eq (h : t.twins site twin) : twin.node.role = site.node.role := by
  rw [t.node h, Node.edited_eq]

theorem text_eq (h : t.twins site twin) : twin.text = site.text := by
  rw [Site.text, t.node h, Node.text_edited, Site.text]

theorem counts_eq (h : t.twins site twin) : twin.node.counts = site.node.counts := by
  rw [t.node h, Node.counts_edited]

/-!
# Children of twins
-/

theorem namedChildren (h : t.twins site twin) :
    Thinned t.twins (site.Omits t.lossy) site.namedChildren twin.namedChildren :=
  ((t.children h).filter counts_eq).imp_mem (fun _ htwins => htwins) fun _ hidle => hidle.1

theorem child? (h : t.twins site twin) (role : Role) :
    Option.Rel t.twins (site.child? role) (twin.child? role) :=
  (t.children h).find? (fun hchild => by rw [hchild.role_eq]) fun homits => by simp [homits.role]

theorem childOf? (h : t.twins site twin) (role : Role) :
    Option.Rel (fun child childTwin =>
        t.twins child childTwin ∧ child ∈ site.children ∧ child.node.role = some role)
      (site.child? role) (twin.child? role) := by
  have hmem : ∀ child, site.child? role = some child → child ∈ site.children ∧
      child.node.role = some role :=
    fun _ hchild => ⟨Site.mem_children_of_child? hchild, Site.role_of_child? hchild⟩
  have hchild := h.child? role
  generalize site.child? role = child at hchild hmem ⊢
  generalize twin.child? role = childTwin at hchild ⊢
  cases hchild with
  | none => exact .none
  | some hchild => exact .some ⟨hchild, hmem _ rfl⟩

theorem childrenIn (h : t.twins site twin) (role : Role) :
    List.Forall₂ t.twins (site.childrenIn role) (twin.childrenIn role) :=
  (t.children h).filter_forall₂ (fun hchild => by rw [hchild.role_eq])
    fun homits => by simp [homits.role]

theorem filter_kind (h : t.twins site twin) (test : NodeKind → Bool) (herror : test .error = false)
    (hother : test .other = false) :
    List.Forall₂ t.twins (site.namedChildren.filter fun child => test child.kind)
      (twin.namedChildren.filter fun child => test child.kind) :=
  h.namedChildren.filter_forall₂ (fun hchild => hchild.read_kind test (hother.trans herror.symm))
    fun homits => homits.test test herror hother

theorem find_kind (h : t.twins site twin) (test : NodeKind → Bool) (herror : test .error = false)
    (hother : test .other = false) :
    Option.Rel t.twins (site.namedChildren.find? fun child => test child.kind)
      (twin.namedChildren.find? fun child => test child.kind) := by
  rw [← List.head?_filter, ← List.head?_filter]
  exact head?_of_forall₂ (h.filter_kind test herror hother)

theorem childOfKind? (h : t.twins site twin) (kind : NodeKind) (hkind : kind.isUnknown = false) :
    Option.Rel t.twins (site.childOfKind? kind) (twin.childOfKind? kind) :=
  h.find_kind (fun own => own = kind) (decide_eq_false (NodeKind.ne_of_isUnknown rfl hkind))
    (decide_eq_false (NodeKind.ne_of_isUnknown rfl hkind))

theorem isAt_eq {other otherTwin : Option Site} (h : t.twins site twin)
    (hother : Option.Rel t.twins other otherTwin) : twin.isAt otherTwin = site.isAt other := by
  cases hother with
  | none => rfl
  | some hother => exact decide_eq_decide.mpr (t.path h hother)

theorem childrenExcept {excluded excludedTwins : List (Option Site)} (h : t.twins site twin)
    (hexcluded : List.Forall₂ (Option.Rel t.twins) excluded excludedTwins) :
    Thinned t.twins (site.Omits t.lossy) (site.childrenExcept excluded)
      (twin.childrenExcept excludedTwins) := by
  refine (h.namedChildren.filter fun hchild => ?_).imp_mem (fun _ htwins => htwins)
    fun _ hidle => hidle.1
  exact congrArg _ ((Thinned.of_forall₂ hexcluded).any_eq (isAt_eq hchild) False.elim)

/-!
# What is read off twins
-/

theorem childNodes {α : Type} (read : Node → α) (h : t.twins site twin)
    (hread : ∀ {child childTwin}, child ∈ site.children → t.twins child childTwin →
      read childTwin.node = read child.node) :
    Thinned (t.edit.Reads read) Node.Idle site.node.children twin.node.children ∧
      (site.kind.ordersChildren = true →
        List.Forall₂ (t.edit.Reads read) site.node.children twin.node.children) := by
  have hchildren : Thinned (fun child childTwin => t.edit.Reads read child.node childTwin.node)
      (site.Omits t.lossy) site.children twin.children :=
    (t.children h).imp_mem (fun hchild htwins => ⟨t.node htwins, hread hchild htwins⟩)
      fun _ homits => homits
  rw [← Site.map_node_number site.path 0 site.node.children,
    ← Site.map_node_number twin.path 0 twin.node.children]
  refine ⟨hchildren.map (fun hrel => hrel) fun homits => homits.idle, fun hkind => ?_⟩
  rw [List.forall₂_map_left_iff, List.forall₂_map_right_iff]
  exact hchildren.ordered (Site.ordersChildren_of_kind hkind)

theorem typeName_eq (h : t.twins site twin) : twin.node.typeName? = site.node.typeName? := by
  induction h using induct with
  | step site twin h ih =>
      rcases h.childNodes Node.typeName? ih with ⟨hnodes, hordered⟩
      have hkind : twin.node.kind = t.edit.kind site.node.kind := h.kind_eq
      have htext : twin.node.text = site.node.text := h.text_eq
      rw [Node.typeName_eq, Node.typeName_eq, hkind, htext,
        Node.typeSegments_eq_of_thinned hnodes, Node.genericBase_eq_of_thinned hnodes]
      refine t.edit.kind_elim site.node.kind ?_ rfl
      split
      case h_6 hannotated =>
        exact Node.annotatedBase_eq_of_forall₂ (hordered (by rw [Site.kind, hannotated]; rfl))
      all_goals rfl

theorem strings_eq (h : t.twins site twin) : twin.node.strings = site.node.strings := by
  induction h using induct with
  | step site twin h ih =>
      have hkind : twin.node.kind = t.edit.kind site.node.kind := h.kind_eq
      have htext : twin.node.text = site.node.text := h.text_eq
      rw [Node.strings_eq, Node.strings_eq, hkind, htext,
        Node.stringsIn_eq_of_thinned (h.childNodes Node.strings ih).1]
      exact t.edit.kind_elim site.node.kind rfl rfl

theorem typeList_eq (h : t.twins site twin) : twin.node.typeList = site.node.typeList := by
  induction h using induct with
  | step site twin h ih =>
      have hnodes := (h.childNodes (fun node => (node.typeName?, node.typeList))
        fun hmem hchild => by rw [hchild.typeName_eq, ih hmem hchild]).1
      rw [Node.typeList_eq, Node.typeList_eq, Node.typeListIn_eq_of_thinned hnodes]

theorem annotations (h : t.twins site twin) :
    List.Forall₂ t.twins site.annotations twin.annotations := by
  have huses : ∀ {holder holderTwin}, Option.Rel t.twins holder holderTwin →
      List.Forall₂ t.twins
        (((holder.map Site.namedChildren).getD []).filter fun child => child.kind.isAnnotationUse)
        (((holderTwin.map Site.namedChildren).getD []).filter
          fun child => child.kind.isAnnotationUse) := by
    intro holder holderTwin hholder
    cases hholder with
    | none => exact .nil
    | some hholder => exact hholder.filter_kind NodeKind.isAnnotationUse rfl rfl
  apply huses
  simp only [h.kind_iff .packageDeclaration rfl]
  split
  · exact .some h
  · exact h.childOfKind? .modifiers rfl

theorem annotationName_eq (h : t.twins site twin) : twin.annotationName = site.annotationName :=
  congrArg (Option.getD · []) (map_eq_of_rel (h.child? .name) fun hname => by rw [hname.text_eq])

theorem suppressedWarnings_eq (h : t.twins site twin) :
    twin.suppressedWarnings = site.suppressedWarnings := by
  rw [Site.suppressedWarnings, Site.suppressedWarnings, List.flatMap_def, List.flatMap_def]
  refine congrArg _ (map_eq_of_forall₂ h.annotations fun huse => ?_)
  rw [huse.annotationName_eq, map_eq_of_rel (huse.child? .arguments) strings_eq]

theorem parameterShape_eq (h : t.twins site twin) : twin.parameterShape = site.parameterShape := by
  rw [Site.parameterShape, Site.parameterShape]
  simp only [List.countP_map, List.contains_eq_any_beq, List.any_map, Prod.mk.injEq]
  constructor
  · rw [List.countP_eq_length_filter, List.countP_eq_length_filter]
    exact (h.filter_kind (fun kind => kind = .formalParameter || kind = .spreadParameter)
      rfl rfl).length_eq.symm
  · exact h.namedChildren.any_eq
      (fun hchild => hchild.read_kind (fun kind => NodeKind.spreadParameter == kind) rfl)
      fun homits => homits.test (fun kind => NodeKind.spreadParameter == kind) rfl rfl

theorem argumentCount_eq (h : t.twins site twin) :
    (twin.child? .arguments).map Site.argumentCount =
      (site.child? .arguments).map Site.argumentCount := by
  refine map_eq_of_rel (h.childOf? .arguments) fun harguments => ?_
  have horders := Site.ordersChildren_of_role (Or.inl harguments.2.2)
  exact (harguments.1.namedChildren.ordered horders).length_eq.symm

end Twinning.twins

end RestrictedApi
