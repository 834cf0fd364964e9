import RestrictedApi.Proofs.Agreement
import RestrictedApi.Proofs.Chains
import RestrictedApi.Proofs.Conserved
import RestrictedApi.Proofs.Grammar
import RestrictedApi.Proofs.History

/-!
# Levels of a tree

The walk follows a tree down to a limited number of levels.  A chain of selections and calls or of
operators is one level however long it is, so the depth of a node is the number of nodes above it
that are not within a chain.  Main statement: a tree is refused only if it has a node that is deeper
than the limit, and then at the line of such a node.
-/

namespace RestrictedApi

theorem NodeKind.eq_of_isMemberLink {kind : NodeKind} (hkind : kind.isMemberLink = true) :
    kind = .fieldAccess ∨ kind = .methodInvocation := by
  revert hkind
  cases kind <;> decide

/-!
# Effective depth
-/

namespace Site

/-- A node within a chain: it stands before the dot of a selection or call and is one itself, or it
is the left operand of an operator and has an operator itself. -/
def isInterior (parent child : Site) : Bool :=
  (parent.kind.isMemberLink && child.kind.isMemberLink && child.isAt (parent.child? .object)) ||
    (parent.kind.isOperatorLink && child.kind.isOperatorLink && child.isAt (parent.child? .left))

/-- The number of nodes on the way down from a site, both ends included, that are not within a
chain. -/
def effectiveDepth : Site → List Nat → Nat
  | _, [] => 1
  | site, i :: steps =>
      match site.children[i]? with
      | none => 1
      | some child => child.effectiveDepth steps + if site.isInterior child then 0 else 1

variable {site child : Site}

theorem effectiveDepth_cons {i : Nat} (hchild : site.children[i]? = some child)
    (steps : List Nat) :
    site.effectiveDepth (i :: steps) =
      child.effectiveDepth steps + if site.isInterior child then 0 else 1 := by
  rw [effectiveDepth, hchild]

theorem effectiveDepth_pos (site : Site) (steps : List Nat) : 0 < site.effectiveDepth steps := by
  induction steps generalizing site with
  | nil => exact Nat.one_pos
  | cons i steps ih =>
      rw [effectiveDepth]
      split
      · exact Nat.one_pos
      · exact Nat.add_pos_left (ih _) _

theorem effectiveDepth_append {top : Site} {steps : List Nat}
    (hsite : top.descend? steps = some site) (others : List Nat) :
    top.effectiveDepth (steps ++ others) + 1 =
      top.effectiveDepth steps + site.effectiveDepth others := by
  induction steps generalizing top with
  | nil =>
      cases hsite
      exact Nat.add_comm _ _
  | cons i steps ih =>
      rcases Option.bind_eq_some_iff.mp hsite with ⟨child, hchild, hrest⟩
      rw [List.cons_append, effectiveDepth_cons hchild, effectiveDepth_cons hchild]
      have hbelow := ih hrest
      omega

/-!
# What is within a chain
-/

theorem isInterior_of_kind (hmember : site.kind.isMemberLink = false)
    (hoperator : site.kind.isOperatorLink = false) (child : Site) :
    site.isInterior child = false := by
  rw [isInterior, hmember, hoperator]
  rfl

theorem role_of_isAt {role : Role} (hchild : child ∈ site.children)
    (hat : child.isAt (site.child? role) = true) : child.node.role = some role := by
  rw [isAt, Option.any_eq_true] at hat
  rcases hat with ⟨found, hfound, hsame⟩
  have hpath : child.path = found.path := of_decide_eq_true hsame
  rw [eq_of_path hchild (mem_children_of_child? hfound) hpath]
  exact role_of_child? hfound

theorem isInterior_of_role {role : Role} (hchild : site.child? role = some child)
    (hobject : role ≠ .object) (hleft : role ≠ .left) : site.isInterior child = false := by
  have hmem := mem_children_of_child? hchild
  have hrole := role_of_child? hchild
  have hat : ∀ {other : Role}, role ≠ other → child.isAt (site.child? other) = false := by
    intro other hne
    rw [Bool.eq_false_iff]
    intro hat
    rw [role_of_isAt hmem hat] at hrole
    exact hne (Option.some.inj hrole).symm
  rw [isInterior, hat hobject, hat hleft, Bool.and_false, Bool.and_false]
  rfl

theorem isInterior_object (hkind : site.kind.isMemberLink = true)
    (hchild : site.child? .object = some child) :
    site.isInterior child = child.kind.isMemberLink := by
  have hoperator : site.kind.isOperatorLink = false := by
    rcases NodeKind.eq_of_isMemberLink hkind with hsite | hsite <;> rw [hsite] <;> rfl
  rw [isInterior, hkind, hoperator, hchild]
  simp [isAt, same]

theorem isInterior_left (hkind : site.kind.isOperatorLink = true)
    (hchild : site.child? .left = some child) :
    site.isInterior child = child.kind.isOperatorLink := by
  have hmember : site.kind.isMemberLink = false := by
    rw [of_decide_eq_true hkind]
    rfl
  rw [isInterior, hkind, hmember, hchild]
  simp [isAt, same]

end Site

/-!
# Steps to a lower level

A step goes on only to sites on a lower level.
-/

/-- Two visits agree at every site below a site that is on a lower level. -/
def AgreeLower (visit other : Visit) (site : Site) : Prop :=
  ∀ steps place, site.descend? steps = some place → 1 < site.effectiveDepth steps →
    visit place = other place

namespace AgreeLower

variable {unit : WalkedUnit} {visit other : Visit} {site child : Site}

theorem place_eq (h : AgreeLower visit other site) (hchild : child ∈ site.children)
    (hlevel : site.isInterior child = false) (steps : List Nat) (place : Site)
    (hplace : child.descend? steps = some place) : visit place = other place := by
  rcases Site.exists_step_of_mem_children hchild with ⟨i, hi, hdescend⟩
  apply h (i :: steps) place
  · exact (hdescend steps).trans hplace
  · rw [Site.effectiveDepth_cons hi, hlevel]
    exact Nat.succ_lt_succ (child.effectiveDepth_pos steps)

theorem agreeBelow (h : AgreeLower visit other site) (hmember : site.kind.isMemberLink = false)
    (hoperator : site.kind.isOperatorLink = false) : AgreeBelow visit other site :=
  fun _ hchild => h.place_eq hchild (Site.isInterior_of_kind hmember hoperator _)

theorem interior (h : AgreeLower visit other site) (hchild : child ∈ site.children)
    (hinterior : site.isInterior child = true) : AgreeLower visit other child := by
  intro steps place hplace hdepth
  rcases Site.exists_step_of_mem_children hchild with ⟨i, hi, hdescend⟩
  apply h (i :: steps) place
  · exact (hdescend steps).trans hplace
  · rw [Site.effectiveDepth_cons hi, hinterior]
    exact hdepth

theorem role (h : AgreeLower visit other site) {role : Role} (hobject : role ≠ .object)
    (hleft : role ≠ .left) (hchild : site.child? role = some child) :
    visit child = other child ∧ AgreeBelow visit other child := by
  have hplace := h.place_eq (Site.mem_children_of_child? hchild)
    (Site.isInterior_of_role hchild hobject hleft)
  constructor
  · exact hplace [] child rfl
  · exact AgreeBelow.of_descend? hplace

theorem visitRole (h : AgreeLower visit other site) (role : Role) (hobject : role ≠ .object)
    (hleft : role ≠ .left) :
    Walker.visit? visit (site.child? role) = Walker.visit? other (site.child? role) := by
  cases hchild : site.child? role with
  | none => rfl
  | some child => exact (h.role hobject hleft hchild).1

/-!
# Chains
-/

theorem linkReceiver (h : AgreeLower visit other site) (hkind : site.kind.isMemberLink = true)
    {given : Option Meaning}
    (hgiven : given = none → (site.child? .object).filter (·.kind.isMemberLink) = none) :
    Walker.linkReceiver unit visit site given = Walker.linkReceiver unit other site given := by
  cases given with
  | some meaning => rfl
  | none =>
      unfold Walker.linkReceiver
      cases hobject : site.child? .object with
      | none => rfl
      | some object =>
          have hlevel : site.isInterior object = false := by
            have hnext := hgiven rfl
            rw [hobject, Option.filter_some] at hnext
            rw [Site.isInterior_object hkind hobject]
            simpa using hnext
          have hvisit := h.place_eq (Site.mem_children_of_child? hobject) hlevel [] object rfl
          simp only [Walker.receiverAt, hvisit]

theorem memberLink (h : AgreeLower visit other site) (hkind : site.kind.isMemberLink = true)
    (hnames : site.NamesCalls) {given : Option Meaning}
    (hgiven : given = none → (site.child? .object).filter (·.kind.isMemberLink) = none) :
    Walker.memberLink unit visit given site = Walker.memberLink unit other given site := by
  have hreceiver : Walker.linkReceiver unit visit site given =
      Walker.linkReceiver unit other site given := h.linkReceiver hkind hgiven
  unfold Walker.memberLink
  by_cases hcall : site.kind = .methodInvocation
  · rw [if_pos hcall, if_pos hcall]
    rcases hnames [] site rfl hcall with ⟨name, hname⟩
    have htypes := h.visitRole .typeArguments (by decide) (by decide)
    unfold Walker.methodInvocation
    rw [hname]
    cases harguments : site.child? .arguments with
    | none => simp only [hreceiver, htypes]
    | some arguments =>
        have hlist := (h.role (by decide) (by decide) harguments).2.visitChildren
        simp only [hreceiver, htypes, hlist]
  · rw [if_neg hcall, if_neg hcall]
    simp only [Walker.fieldAccess, hreceiver]

/-- By recursion along the chain, since each link is on the level of the whole chain. -/
theorem memberChain (h : AgreeLower visit other site) (hkind : site.kind.isMemberLink = true)
    (hnames : site.NamesCalls) :
    Walker.memberChain unit visit site = Walker.memberChain unit other site := by
  fun_induction Walker.memberWalk unit visit site with
  | case1 site hobject =>
      have hfirst : (site.child? .object).filter (·.kind.isMemberLink) = none := by
        rw [hobject, Option.filter_none]
      rw [Walker.memberChain_eq, Walker.memberChain_eq, hfirst]
      exact h.memberLink hkind hnames fun _ => hfirst
  | case2 site object hobject hlink ih =>
      have hmem := Site.mem_children_of_child? hobject
      have hinterior : site.isInterior object = true :=
        (Site.isInterior_object hkind hobject).trans hlink
      have hlast : ∀ receiver, Walker.memberLink unit visit (some receiver) site =
          Walker.memberLink unit other (some receiver) site :=
        fun receiver => h.memberLink hkind hnames fun hnone => by cases hnone
      rw [Walker.memberChain_eq, Walker.memberChain_eq, hobject, Option.filter_some, if_pos hlink]
      simp only [ih (h.interior hmem hinterior) hlink (hnames.below hmem), hlast]
  | case3 site object hobject hlink =>
      have hfirst : (site.child? .object).filter (·.kind.isMemberLink) = none := by
        rw [hobject, Option.filter_some, if_neg hlink]
      rw [Walker.memberChain_eq, Walker.memberChain_eq, hfirst]
      exact h.memberLink hkind hnames fun _ => hfirst

theorem operatorChain (h : AgreeLower visit other site) (hkind : site.kind.isOperatorLink = true) :
    Walker.operatorChain visit site = Walker.operatorChain other site := by
  fun_induction Walker.operatorWalk visit site with
  | case1 site hleft =>
      have hright := h.visitRole .right (by decide) (by decide)
      rw [Walker.operatorChain_eq, Walker.operatorChain_eq, hleft, Option.filter_none]
      simp only [hright]
      rfl
  | case2 site left hleft hlink ih =>
      have hright := h.visitRole .right (by decide) (by decide)
      have hmem := Site.mem_children_of_child? hleft
      have hinterior : site.isInterior left = true :=
        (Site.isInterior_left hkind hleft).trans hlink
      rw [Walker.operatorChain_eq, Walker.operatorChain_eq, hleft, Option.filter_some,
        if_pos hlink]
      simp only [ih (h.interior hmem hinterior) hlink, hright]
  | case3 site left hleft hlink =>
      have hright := h.visitRole .right (by decide) (by decide)
      have hlevel : site.isInterior left = false :=
        (Site.isInterior_left hkind hleft).trans (Bool.eq_false_iff.mpr hlink)
      have hvisit : Walker.visit? visit (some left) = Walker.visit? other (some left) :=
        h.place_eq (Site.mem_children_of_child? hleft) hlevel [] left rfl
      rw [Walker.operatorChain_eq, Walker.operatorChain_eq, hleft, Option.filter_some,
        if_neg hlink]
      simp only [hvisit, hright]

theorem step (h : AgreeLower visit other site) (hnames : site.NamesCalls) :
    Walker.step unit visit site = Walker.step unit other site := by
  cases hmember : site.kind.isMemberLink with
  | true =>
      have hchain : Walker.memberChain unit visit site = Walker.memberChain unit other site :=
        h.memberChain hmember hnames
      unfold Walker.step
      rcases NodeKind.eq_of_isMemberLink hmember with hkind | hkind
      · rw [hkind]
        exact hchain
      · rw [hkind]
        exact hchain
  | false =>
      cases hoperator : site.kind.isOperatorLink with
      | true =>
          have hkind : site.kind = .binaryExpression := of_decide_eq_true hoperator
          unfold Walker.step
          rw [hkind]
          exact congrArg Walker.silent (h.operatorChain hoperator)
      | false => exact (h.agreeBelow hmember hoperator).step hmember hoperator

end AgreeLower

/-!
# The limit
-/

theorem Walk.conserves_tooDeep (unit : WalkedUnit) (holds : Option Nat → Prop) :
    Walk.Conserves unit fun first second => holds first.tooDeep → holds second.tooDeep where
  refl := fun _ hfirst => hfirst
  trans := fun h h' hfirst => h' (h hfirst)
  report := by
    intro walk site shape name target inImport hwalk
    change holds (if walk.muted > 0 then walk else _).tooDeep
    split <;> exact hwalk
  declare := by
    intro walk nameSite kind type hwalk
    change holds (Walk.modifyBlock _ _).tooDeep
    unfold Walk.modifyBlock
    split <;> exact hwalk
  within := fun _ h => h
  inBlock := by
    intro first opened second hopens h
    rcases hopens.eq with ⟨block, table, rfl⟩
    exact h
  underDeclaration := fun _ h => h
  inSwitch := fun _ h => h
  unheard := fun h => h

namespace Site

def DeepLine (root : Site) (line : Nat) : Prop :=
  ∃ steps site, root.descend? steps = some site ∧ nestingLimit < root.effectiveDepth steps ∧
    line = site.line

/-- A walk that has met the limit, if at all, at a node that is deeper. -/
def MeetsDeep (root : Site) (tooDeep : Option Nat) : Prop :=
  ∀ line, tooDeep = some line → root.DeepLine line

/-- By induction on the number of levels left, which together with the depth exceed the limit. -/
theorem visit_meetsDeep (unit : WalkedUnit) {root : Site} (hnames : root.NamesCalls) (levels : Nat)
    {steps : List Nat} {site : Site} (hsite : root.descend? steps = some site)
    (hlevels : nestingLimit < root.effectiveDepth steps + levels) :
    Walker.Keeps (fun first second => root.MeetsDeep first.tooDeep → root.MeetsDeep second.tooDeep)
      (Walker.visit unit levels site) := by
  have hconserves := Walk.conserves_tooDeep unit root.MeetsDeep
  induction levels generalizing steps site with
  | zero =>
      intro walk hwalk line hline
      change (walk.tooDeep <|> some site.line) = some line at hline
      cases hdeep : walk.tooDeep with
      | some earlier =>
          rw [hdeep] at hline
          exact hwalk line (hdeep.trans hline)
      | none =>
          rw [hdeep] at hline
          exact ⟨steps, site, hsite, hlevels, (Option.some.inj hline).symm⟩
  | succ levels ih =>
      classical
      -- The visits below are changed where the step does not go on to.
      let guarded : Visit := fun place =>
        if ∃ others, site.descend? others = some place ∧ 1 < site.effectiveDepth others then
          Walker.visit unit levels place
        else pure .unknown
      have hagree : AgreeLower (Walker.visit unit levels) guarded site :=
        fun others place hplace hdepth => (if_pos ⟨others, hplace, hdepth⟩).symm
      have hguarded : Walk.Conserves.Visits
          (fun first second => root.MeetsDeep first.tooDeep → root.MeetsDeep second.tooDeep)
          guarded := by
        intro place
        by_cases hlower : ∃ others, site.descend? others = some place ∧
            1 < site.effectiveDepth others
        · rcases hlower with ⟨others, hplace, hdepth⟩
          have happend := effectiveDepth_append hsite others
          rw [← hagree others place hplace hdepth]
          exact ih ((descend?_append hsite others).trans hplace) (by omega)
        · simp only [guarded, if_neg hlower]
          exact hconserves.pure _
      apply Walk.Conserves.bind_get
      intro walk
      split
      · exact hconserves.pure _
      · rw [hagree.step (hnames.descend? hsite)]
        exact hconserves.step hguarded site

end Site

namespace Program

theorem walk_meetsDeep (program : Program) (number : Nat) (source : SourceUnit)
    (hnames : Site.NamesCalls ⟨[number], source.root⟩) :
    Site.MeetsDeep ⟨[number], source.root⟩ (program.walk number source).tooDeep := by
  have hroot : Site.descend? ⟨[number], source.root⟩ [] = some ⟨[number], source.root⟩ := rfl
  apply Site.visit_meetsDeep (program.walkedUnit number source) hnames nestingLimit hroot
  · exact Nat.lt_add_of_pos_left Nat.one_pos
  · intro line hline
    cases hline

/-- Chains do not count for the limit of levels, and no other tree is refused than one that has a
node deeper than the limit. -/
theorem nestingLimit_ignores_chains (program : Program) (number : Nat) (source : SourceUnit)
    (hsource : program.units[number]? = some source)
    (hnames : Site.NamesCalls ⟨[number], source.root⟩) :
    let root : Site := ⟨[number], source.root⟩
    ((∀ steps site, root.descend? steps = some site → root.effectiveDepth steps ≤ 256) →
      ∃ usages, (program.usages number).1 = .ok usages) ∧
    ∀ error, (program.usages number).1 = .error error →
      error.path = source.path ∧
      ∃ steps site, root.descend? steps = some site ∧ 257 ≤ root.effectiveDepth steps ∧
        error.line = site.line := by
  intro root
  have hmeets := program.walk_meetsDeep number source hnames
  rw [usages, hsource]
  cases hdeep : (program.walk number source).tooDeep with
  | none => simp [hdeep]
  | some line =>
      rcases hmeets line hdeep with ⟨steps, site, hsite, hdepth, hline⟩
      constructor
      · intro hshallow
        exact absurd (hshallow steps site hsite) (Nat.not_le.mpr hdepth)
      · intro error herror
        simp only [hdeep, Except.error.injEq] at herror
        rw [← herror]
        exact ⟨rfl, steps, site, hsite, hdepth, hline⟩

/-- A chain of operators, as in `x + x + x`. -/
def operators : Nat → Node
  | 0 => ⟨.identifier, true, some .left, 1, 1, 0, 1, "x", []⟩
  | count + 1 =>
      ⟨.binaryExpression, true, some .left, 1, 1, 0, 0, "", [
        operators count, ⟨.identifier, true, some .right, 1, 1, 0, 1, "x", []⟩]⟩

/-- A name within parentheses that each stand on a line of their own. -/
def parentheses : Nat → Nat → Node
  | line, 0 => ⟨.identifier, true, none, line, 1, 0, 1, "x", []⟩
  | line, count + 1 =>
      ⟨.parenthesizedExpression, true, none, line, 1, 0, 0, "", [parentheses (line + 1) count]⟩

theorem operators_shallow (count : Nat) (path : Path) (steps : List Nat) (site : Site)
    (hsite : Site.descend? ⟨path, operators count⟩ steps = some site) :
    site.kind ≠ .methodInvocation ∧ Site.effectiveDepth ⟨path, operators count⟩ steps ≤ 2 := by
  induction count generalizing path steps with
  | zero =>
      cases steps with
      | nil =>
          cases hsite
          exact ⟨nofun, Nat.le_succ 1⟩
      | cons i steps => cases hsite
  | succ count ih =>
      match steps, hsite with
      | [], hsite =>
          cases hsite
          exact ⟨nofun, Nat.le_succ 1⟩
      | 0 :: steps, hsite =>
          have hleft := ih (0 :: path) steps hsite
          constructor
          · exact hleft.1
          · have hchild : Site.child? ⟨path, operators (count + 1)⟩ .left =
                some ⟨0 :: path, operators count⟩ := by
              cases count <;> rfl
            rw [Site.effectiveDepth_cons rfl, Site.isInterior_left rfl hchild]
            cases count with
            | zero =>
                cases steps with
                | nil => exact Nat.le_refl 2
                | cons i steps => cases hsite
            | succ count => exact hleft.2
      | [1], hsite =>
          cases hsite
          have hright : Site.child? ⟨path, operators (count + 1)⟩ .right =
              some ⟨1 :: path, ⟨.identifier, true, some .right, 1, 1, 0, 1, "x", []⟩⟩ := by
            cases count <;> rfl
          constructor
          · exact nofun
          · rw [Site.effectiveDepth_cons rfl, Site.isInterior_of_role hright nofun nofun]
            exact Nat.le_refl 2
      | 1 :: i :: steps, hsite => cases hsite
      | (i + 2) :: steps, hsite => cases hsite

theorem parentheses_namesCalls (line count : Nat) (path : Path) :
    Site.NamesCalls ⟨path, parentheses line count⟩ := by
  intro steps place hplace hkind
  induction count generalizing line path steps with
  | zero =>
      cases steps with
      | nil =>
          cases hplace
          cases hkind
      | cons i steps => cases hplace
  | succ count ih =>
      match steps, hplace with
      | [], hplace =>
          cases hplace
          cases hkind
      | 0 :: steps, hplace => exact ih (line + 1) (0 :: path) steps hplace
      | (i + 1) :: steps, hplace => cases hplace

theorem parentheses_deep (unit : WalkedUnit) (levels : Nat) {count : Nat} (hcount : levels ≤ count)
    (line : Nat) (path : Path) {walk : Walk} (hwalk : walk.tooDeep = none) :
    ((Walker.visit unit levels ⟨path, parentheses line count⟩).run walk).2.tooDeep =
      some (line + levels) := by
  induction levels generalizing count line path with
  | zero =>
      change (walk.tooDeep <|> some _) = _
      rw [hwalk]
      cases count <;> rfl
  | succ levels ih =>
      cases count with
      | zero => omega
      | succ count =>
          have hnext := ih (Nat.le_of_succ_le_succ hcount) (line + 1) (0 :: path)
          have hchild : Walker.step unit (Walker.visit unit levels)
              ⟨path, parentheses line (count + 1)⟩ =
                Walker.visit unit levels ⟨0 :: path, parentheses (line + 1) count⟩ := by
            cases count <;> rfl
          change ((if walk.tooDeep.isSome then pure .unknown
            else Walker.step unit _ _ : Walker Meaning).run walk).2.tooDeep = _
          rw [hwalk, if_neg nofun, hchild, hnext]
          exact congrArg some (Nat.succ_add_eq_add_succ line levels)

theorem usages_parentheses (program : Program) {number line count : Nat} {source : SourceUnit}
    (hsource : program.units[number]? = some source) (hroot : source.root = parentheses line count)
    (hcount : nestingLimit ≤ count) :
    (program.usages number).1 = .error ⟨source.path, line + nestingLimit⟩ := by
  have hdeep : (program.walk number source).tooDeep = some (line + nestingLimit) := by
    rw [Program.walk, WalkedUnit.walk, hroot]
    exact parentheses_deep _ nestingLimit hcount line _ rfl
  rw [usages, hsource]
  simp only [hdeep]

/-- A thousand operators in a chain are one level, and so the unit is walked; parentheses around
parentheses are refused at the line of the first pair that is too deep. -/
theorem nestingLimit_ignores_chains_thousand :
    let chained : SourceUnit := ⟨⟨"Chained.java"⟩, operators 1000, false⟩
    let nested : SourceUnit := ⟨⟨"Nested.java"⟩, parentheses 1 1000, false⟩
    (∃ usages, ((ofUnits [chained, nested]).usages 0).1 = .ok usages) ∧
      ((ofUnits [chained, nested]).usages 1).1 = .error ⟨⟨"Nested.java"⟩, 257⟩ ∧
      ∃ steps site, Site.descend? ⟨[1], nested.root⟩ steps = some site ∧
        257 ≤ Site.effectiveDepth ⟨[1], nested.root⟩ steps ∧ 257 = site.line := by
  intro chained nested
  have hcalls : Site.NamesCalls ⟨[0], chained.root⟩ := by
    intro steps site hsite hkind
    exact absurd hkind (operators_shallow 1000 [0] steps site hsite).1
  have hshallow : ∀ steps site, Site.descend? ⟨[0], chained.root⟩ steps = some site →
      Site.effectiveDepth ⟨[0], chained.root⟩ steps ≤ 256 := by
    intro steps site hsite
    exact Nat.le_trans (operators_shallow 1000 [0] steps site hsite).2 (by decide)
  have hroot : nested.root = parentheses 1 1000 := rfl
  have hrefused : ((ofUnits [chained, nested]).usages 1).1 = .error ⟨⟨"Nested.java"⟩, 257⟩ :=
    usages_parentheses _ rfl hroot (by decide)
  have hchained := nestingLimit_ignores_chains (ofUnits [chained, nested]) 0 chained rfl hcalls
  have hnested := nestingLimit_ignores_chains (ofUnits [chained, nested]) 1 nested rfl
    (parentheses_namesCalls 1 1000 [1])
  exact ⟨hchained.1 hshallow, hrefused, (hnested.2 _ hrefused).2⟩

end Program

end RestrictedApi
