import RestrictedApi.Extraction.Expressions
import RestrictedApi.Proofs.Ancestry

/-!
# Chains

A chain of selections and calls, or of operators, is walked link by link, from the innermost link
outwards, so that its length costs no depth.  This module takes a chain apart at its outermost link
and shows that the walk along the links is the plain recursion over the tree: what stands before a
link is walked first, and then the link itself.
-/

namespace RestrictedApi

/-!
# Links
-/

theorem Node.chainIn_eq (role : Role) (continues : NodeKind → Bool) (path : Path) (index : Nat)
    (nodes : List Node) :
    Node.chainIn role continues path index nodes =
      match (Site.number path index nodes).find? fun child => child.node.role = some role with
      | none => []
      | some child => if continues child.kind then child.chain role continues else [] := by
  induction nodes generalizing index with
  | nil => rfl
  | cons node rest ih =>
      rw [Node.chainIn, Site.number, List.find?_cons]
      by_cases hrole : node.role = some role
      · simp only [hrole]
        rfl
      · simp [hrole, ih]

theorem Site.chain_eq (site : Site) (role : Role) (continues : NodeKind → Bool) :
    site.chain role continues = site ::
      match site.child? role with
      | none => []
      | some child => if continues child.kind then child.chain role continues else [] := by
  rcases site with ⟨path, node⟩
  cases node with
  | mk kind named own line column offset length text children =>
      rw [Site.chain, Node.chain, Node.chainIn_eq]
      rfl

theorem Site.sizeOf_lt_of_child? {site child : Site} {role : Role}
    (hchild : site.child? role = some child) : sizeOf child.node < sizeOf site.node := by
  have hlt := List.sizeOf_lt_of_mem (node_mem_of_mem_children (mem_children_of_child? hchild))
  cases hnode : site.node with
  | mk kind named own line column offset length text children =>
      rw [hnode] at hlt
      change sizeOf child.node < sizeOf children at hlt
      rw [Node.mk.sizeOf_spec]
      omega

theorem Site.chain_ne_nil (site : Site) (role : Role) (continues : NodeKind → Bool) :
    site.chain role continues ≠ [] := by
  rw [Site.chain_eq]
  simp

namespace Walker

theorem memberLinks_concat (unit : WalkedUnit) (visit : Visit) (given : Option Meaning)
    (links : List Site) (link : Site) :
    memberLinks unit visit given (links ++ [link]) =
      memberLinks unit visit given links >>= fun before => do
        let meaning ← memberLink unit visit before link
        return some meaning := by
  induction links generalizing given with
  | nil => simp [memberLinks]
  | cons first rest ih => simp [memberLinks, ih]

theorem memberChain_eq (unit : WalkedUnit) (visit : Visit) (site : Site) :
    memberChain unit visit site =
      match (site.child? .object).filter fun object => object.kind.isMemberLink with
      | none => memberLink unit visit none site
      | some object =>
          memberChain unit visit object >>= fun meaning =>
            memberLink unit visit (some meaning) site := by
  rw [memberChain, Site.chain_eq, List.reverse_cons, memberLinks_concat]
  cases site.child? .object with
  | none => simp [memberLinks]
  | some object =>
      cases hkind : object.kind.isMemberLink with
      | false => simp [hkind, memberLinks, Option.filter_some]
      | true =>
          simp only [hkind, Option.filter_some, if_true]
          rw [memberChain, Site.chain_eq, List.reverse_cons, memberLinks_concat]
          simp

theorem operatorChain_eq (visit : Visit) (site : Site) :
    operatorChain visit site =
      match (site.child? .left).filter fun left => left.kind.isOperatorLink with
      | none =>
          discard (visit? visit (site.child? .left)) >>= fun _ =>
            discard (visit? visit (site.child? .right))
      | some left =>
          operatorChain visit left >>= fun _ => discard (visit? visit (site.child? .right)) := by
  rw [operatorChain, Site.chain_eq, List.reverse_cons]
  cases hleft : site.child? .left with
  | none => simp [hleft]
  | some left =>
      cases hkind : left.kind.isOperatorLink with
      | false => simp [hkind, hleft, Option.filter_some]
      | true =>
          simp only [hkind, Option.filter_some, if_true]
          rw [operatorChain, Site.chain_eq, List.reverse_cons]
          simp

/-!
# Recursion over the tree
-/

/-- A chain of selections and calls by recursion: what stands before the dot is walked first, if it
is a selection or call, and then the link, given what that denotes. -/
def memberWalk (unit : WalkedUnit) (visit : Visit) (site : Site) : Walker Meaning :=
  match _ : site.child? .object with
  | none => memberLink unit visit none site
  | some object =>
      if object.kind.isMemberLink then do
        let receiver ← memberWalk unit visit object
        memberLink unit visit (some receiver) site
      else memberLink unit visit none site
termination_by sizeOf site.node
decreasing_by exact Site.sizeOf_lt_of_child? ‹_›

/-- A chain of operators by recursion: the left operand, which may be a chain itself, and then the
right one. -/
def operatorWalk (visit : Visit) (site : Site) : Walker Unit :=
  match _ : site.child? .left with
  | none => discard (visit? visit (site.child? .right))
  | some left =>
      if left.kind.isOperatorLink then do
        operatorWalk visit left
        discard (visit? visit (site.child? .right))
      else do
        discard (visit left)
        discard (visit? visit (site.child? .right))
termination_by sizeOf site.node
decreasing_by exact Site.sizeOf_lt_of_child? ‹_›

theorem memberChain_eq_memberWalk (unit : WalkedUnit) (visit : Visit) (site : Site) :
    memberChain unit visit site = memberWalk unit visit site := by
  fun_induction memberWalk unit visit site with
  | case1 site hobject => rw [memberChain_eq, hobject, Option.filter_none]
  | case2 site object hobject hkind ih =>
      rw [memberChain_eq, hobject, Option.filter_some, if_pos hkind, ← ih]
  | case3 site object hobject hkind =>
      rw [memberChain_eq, hobject, Option.filter_some, if_neg hkind]

theorem operatorChain_eq_operatorWalk (visit : Visit) (site : Site) :
    operatorChain visit site = operatorWalk visit site := by
  fun_induction operatorWalk visit site with
  | case1 site hleft =>
      rw [operatorChain_eq, hleft, Option.filter_none]
      rfl
  | case2 site left hleft hkind ih =>
      rw [operatorChain_eq, hleft, Option.filter_some, if_pos hkind, ← ih]
  | case3 site left hleft hkind =>
      rw [operatorChain_eq, hleft, Option.filter_some, if_neg hkind]
      rfl

/-- Walking a chain link by link is the recursion over the tree: from every state it gives the same
meaning and ends in the same state, with the same references in the same order. -/
theorem chains_run_recursively (unit : WalkedUnit) (visit : Visit) (site : Site) (walk : Walk) :
    (memberChain unit visit site).run walk = (memberWalk unit visit site).run walk ∧
      (operatorChain visit site).run walk = (operatorWalk visit site).run walk := by
  rw [memberChain_eq_memberWalk, operatorChain_eq_operatorWalk]
  exact ⟨rfl, rfl⟩

end Walker

end RestrictedApi
