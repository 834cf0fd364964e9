import RestrictedApi.Proofs.Edited

/-!
# The sites of edited trees

A site that is not left out is found in the edited tree, at a place that counts only the siblings
before it that are not left out either.  No two sites are found at the same place.
-/

namespace RestrictedApi

namespace Edit

variable {edit : Edit} {roots : List Node}

def position (edit : Edit) (nodes : List Node) (index : Nat) : Nat :=
  (nodes.take index).countP fun node => !edit.drops node

/-- The sites of trees, each with the site where it is found after the edit. -/
inductive Twins (edit : Edit) (roots : List Node) : Site → Site → Prop where
  | root {number : Nat} {node : Node} :
      roots[number]? = some node →
      Twins edit roots ⟨[number], node⟩ ⟨[number], node.edited edit⟩
  | child {site twin : Site} {index : Nat} {node : Node} :
      Twins edit roots site twin →
      site.node.children[index]? = some node →
      edit.drops node = false →
      Twins edit roots ⟨index :: site.path, node⟩
        ⟨edit.position site.node.children index :: twin.path, node.edited edit⟩

/-!
# Children
-/

theorem thinned_number {rel : Site → Site → Prop} {idle : Site → Prop} {path twinPath : Path}
    {nodes : List Node} {index position : Nat}
    (hkeep : ∀ i node, nodes[i]? = some node → edit.drops node = false →
      rel ⟨(index + i) :: path, node⟩
        ⟨(position + edit.position nodes i) :: twinPath, node.edited edit⟩)
    (hdrop : ∀ i node, nodes[i]? = some node → edit.drops node = true →
      idle ⟨(index + i) :: path, node⟩) :
    Thinned rel idle (Site.number path index nodes)
      (Site.number twinPath position (Node.editedIn edit nodes)) := by
  induction nodes generalizing index position with
  | nil =>
      rw [Node.editedIn]
      exact .nil
  | cons node rest ih =>
      have hindex : ∀ i, index + 1 + i = index + (i + 1) := by omega
      have hidle : ∀ i child, rest[i]? = some child → edit.drops child = true →
          idle ⟨(index + 1 + i) :: path, child⟩ := by
        intro i child hchild hdropped
        rw [hindex]
        exact hdrop (i + 1) child hchild hdropped
      rw [Node.editedIn, Site.number]
      cases hnode : edit.drops node with
      | true =>
          refine .drop (hdrop 0 node rfl hnode) (ih (fun i child hchild hkept => ?_) hidle)
          simpa [Edit.position, hnode, hindex] using hkeep (i + 1) child hchild hkept
      | false =>
          refine .keep (hkeep 0 node rfl hnode) (ih (fun i child hchild hkept => ?_) hidle)
          have hposition : ∀ j, position + 1 + j = position + (j + 1) := by omega
          simpa [Edit.position, hnode, hindex, hposition] using hkeep (i + 1) child hchild hkept

theorem position_lt_position {nodes : List Node} {i j : Nat} {node : Node}
    (hnode : nodes[i]? = some node) (hkept : edit.drops node = false) (hlt : i < j) :
    edit.position nodes i < edit.position nodes j := by
  have hnext : edit.position nodes (i + 1) = edit.position nodes i + 1 := by
    rw [Edit.position, List.take_add_one, hnode, List.countP_append]
    simp [Edit.position, hkept]
  have hle : edit.position nodes (i + 1) ≤ edit.position nodes j :=
    (List.take_sublist_take_left hlt).countP_le
  omega

namespace Twins

variable {site twin other otherTwin : Site}

theorem node_eq (h : edit.Twins roots site twin) : twin.node = site.node.edited edit := by
  cases h with
  | root => rfl
  | child => rfl

theorem path_ne_nil (h : edit.Twins roots site twin) : site.path ≠ [] ∧ twin.path ≠ [] := by
  cases h with
  | root => exact ⟨List.cons_ne_nil _ _, List.cons_ne_nil _ _⟩
  | child => exact ⟨List.cons_ne_nil _ _, List.cons_ne_nil _ _⟩

theorem children (h : edit.Twins roots site twin) {idle : Site → Prop}
    (hidle : ∀ child, child ∈ site.children → edit.drops child.node = true → idle child) :
    Thinned (edit.Twins roots) idle site.children twin.children := by
  rw [Site.children, Site.children, h.node_eq, Node.edited_eq]
  apply thinned_number
  · intro i node hnode hkept
    rw [Nat.zero_add, Nat.zero_add]
    exact .child h hnode hkept
  · intro i node hnode hdropped
    rw [Nat.zero_add]
    refine hidle _ ?_ hdropped
    apply List.mem_of_getElem? (i := i)
    rw [Site.getElem?_children, hnode, Option.map_some]

theorem eq_of_path (h : edit.Twins roots site twin) (hother : edit.Twins roots other otherTwin)
    (hpath : site.path = other.path ∨ twin.path = otherTwin.path) :
    site = other ∧ twin = otherTwin := by
  induction h generalizing other otherTwin with
  | root hnode =>
      cases hother with
      | root hotherNode =>
          have hnumber := hpath.elim (fun h => (List.cons.inj h).1) fun h => (List.cons.inj h).1
          subst hnumber
          cases hnode.symm.trans hotherNode
          exact ⟨rfl, rfl⟩
      | child habove =>
          rcases hpath with hpath | hpath
          · exact absurd (List.cons.inj hpath).2.symm habove.path_ne_nil.1
          · exact absurd (List.cons.inj hpath).2.symm habove.path_ne_nil.2
  | @child _ _ i _ hsite hnode hkept ih =>
      cases hother with
      | root =>
          rcases hpath with hpath | hpath
          · exact absurd (List.cons.inj hpath).2 hsite.path_ne_nil.1
          · exact absurd (List.cons.inj hpath).2 hsite.path_ne_nil.2
      | @child _ _ j _ habove hotherNode hotherKept =>
          rcases ih habove (hpath.imp (fun h => (List.cons.inj h).2) fun h => (List.cons.inj h).2)
            with ⟨rfl, rfl⟩
          have hindex : i = j := by
            rcases hpath with hpath | hpath
            · exact (List.cons.inj hpath).1
            · have hposition := (List.cons.inj hpath).1
              rcases Nat.lt_trichotomy i j with hlt | heq | hgt
              · exact absurd hposition (Nat.ne_of_lt (position_lt_position hnode hkept hlt))
              · exact heq
              · exact absurd hposition
                  (Nat.ne_of_gt (position_lt_position hotherNode hotherKept hgt))
          subst hindex
          cases hnode.symm.trans hotherNode
          exact ⟨rfl, rfl⟩

/-!
# The way down
-/

/-- A site that has a twin is reached without meeting a node that is left out, except that the root
is always kept. -/
theorem reached (h : edit.Twins roots site twin) :
    ∃ number root steps, roots[number]? = some root ∧
      Site.descend? ⟨[number], root⟩ steps = some site ∧
      ∀ above, above ∈ Site.ancestors ⟨[number], root⟩ steps ++ [site] →
        above = ⟨[number], root⟩ ∨ edit.drops above.node = false := by
  induction h with
  | @root number node hnode =>
      refine ⟨number, node, [], hnode, rfl, ?_⟩
      intro above habove
      exact Or.inl (List.mem_singleton.mp habove)
  | @child site twin index node hsite hnode hkept ih =>
      rcases ih with ⟨number, root, steps, hroot, hreached, habove⟩
      refine ⟨number, root, steps ++ [index], hroot, ?_, ?_⟩
      · rw [Site.descend?_concat hreached, Site.getElem?_children, hnode, Option.map_some]
      · intro above hmem
        rw [Site.ancestors_concat hreached] at hmem
        rcases List.mem_append.mp hmem with hbefore | hlast
        · exact habove above hbefore
        · rw [List.mem_singleton.mp hlast]
          exact Or.inr hkept

theorem everywhere (h : edit.Twins roots site twin) {test : Option Node → Node → Bool}
    (hroots : ∀ root, root ∈ roots → root.everywhere test none = true) :
    ∃ parent, site.node.everywhere test parent = true := by
  induction h with
  | root hnode => exact ⟨none, hroots _ (List.mem_of_getElem? hnode)⟩
  | @child site _ _ _ _ hnode _ ih =>
      rcases ih with ⟨parent, hsite⟩
      exact ⟨some site.node,
        ((Node.everywhere_iff test parent site.node).mp hsite).2 _ (List.mem_of_getElem? hnode)⟩

end Twins

/-- Only what can be left out is left out of the trees. -/
structure Harmless (edit : Edit) (roots : List Node) : Prop where
  omits : ∀ {site twin child}, edit.Twins roots site twin → child ∈ site.children →
    edit.drops child.node = true → site.Omits True child

def Harmless.twinning {roots : List Node} (h : edit.Harmless roots) : Twinning where
  edit := edit
  lossy := True
  twins := edit.Twins roots
  node := Twins.node_eq
  children hsite := hsite.children fun _ hchild hdropped => h.omits hsite hchild hdropped
  path h hother := by
    constructor
    · exact fun hpath => congrArg Site.path (h.eq_of_path hother (Or.inr hpath)).1
    · exact fun hpath => congrArg Site.path (h.eq_of_path hother (Or.inl hpath)).2

end Edit

end RestrictedApi
