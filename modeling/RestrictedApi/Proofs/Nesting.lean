import RestrictedApi.Proofs.Attached
import RestrictedApi.Proofs.Conserved
import RestrictedApi.Proofs.Enclosing

/-!
# The two limits

There is a limit to the levels of a tree that an extraction follows, and one to the owners that a
verdict looks at.  A type within a type is at least two levels further down, so where the first
limit is not met there are too few types around a declaration for the second one to matter:
verdicts are the same as those of a walk through all owners.
-/

namespace RestrictedApi

/-!
# Verdicts without a limit
-/

/-- The walk through the owners of a symbol, however far it goes, and its answer. -/
inductive Restriction.Judges (restriction : Restriction) (table : SymbolTable) :
    Option Symbol → Bool → Prop where
  | missing : Judges restriction table none false
  | exempt {symbol : Symbol} :
      restriction.exempts symbol = true →
      Judges restriction table (some symbol) false
  | marked {symbol : Symbol} :
      restriction.exempts symbol = false →
      symbol.carries restriction.marker = true →
      Judges restriction table (some symbol) true
  | inherited {symbol : Symbol} {answer : Bool} :
      restriction.exempts symbol = false →
      symbol.carries restriction.marker = false →
      symbol.kind.inheritsFromOwner = true →
      Judges restriction table (symbol.owner.bind table.get?) answer →
      Judges restriction table (some symbol) answer
  | unmarked {symbol : Symbol} :
      restriction.exempts symbol = false →
      symbol.carries restriction.marker = false →
      symbol.kind.inheritsFromOwner = false →
      Judges restriction table (some symbol) false

/-- From a symbol, at most `n` symbols are met by going on to owners as long as kinds inherit. -/
inductive SymbolTable.EndsWithin (table : SymbolTable) : Nat → Option Symbol → Prop where
  | missing {n : Nat} : EndsWithin table n none
  | last {n : Nat} {symbol : Symbol} :
      symbol.kind.inheritsFromOwner = false → EndsWithin table (n + 1) (some symbol)
  | owned {n : Nat} {symbol : Symbol} :
      EndsWithin table n (symbol.owner.bind table.get?) → EndsWithin table (n + 1) (some symbol)

namespace Restriction

variable {restriction : Restriction} {table : SymbolTable} {symbol : Option Symbol}

theorem restrictedWithin_none (steps : Nat) :
    restriction.restrictedWithin table steps none = false := by
  cases steps <;> rfl

theorem Judges.restrictedWithin_eq {answer : Bool} (h : restriction.Judges table symbol answer) :
    ∃ n, ∀ steps, n ≤ steps → restriction.restrictedWithin table steps symbol = answer := by
  induction h with
  | missing => exact ⟨0, fun steps _ => restrictedWithin_none steps⟩
  | exempt hexempt =>
      refine ⟨1, fun steps hsteps => ?_⟩
      rcases Nat.exists_eq_succ_of_ne_zero (Nat.ne_of_gt hsteps) with ⟨rest, rfl⟩
      rw [restrictedWithin, if_pos hexempt]
  | marked hexempt hmarked =>
      refine ⟨1, fun steps hsteps => ?_⟩
      rcases Nat.exists_eq_succ_of_ne_zero (Nat.ne_of_gt hsteps) with ⟨rest, rfl⟩
      rw [restrictedWithin, hexempt, hmarked]
      rfl
  | inherited hexempt hmarked hinherits _ ih =>
      rcases ih with ⟨n, hn⟩
      refine ⟨n + 1, fun steps hsteps => ?_⟩
      rcases Nat.exists_eq_add_of_le' hsteps with ⟨more, rfl⟩
      rw [← Nat.add_assoc, restrictedWithin, hexempt, hmarked, hinherits]
      exact hn _ (Nat.le_add_left n more)
  | unmarked hexempt hmarked hinherits =>
      refine ⟨1, fun steps hsteps => ?_⟩
      rcases Nat.exists_eq_succ_of_ne_zero (Nat.ne_of_gt hsteps) with ⟨rest, rfl⟩
      rw [restrictedWithin, hexempt, hmarked, hinherits]
      rfl

theorem judges_of_endsWithin {n : Nat} (h : table.EndsWithin n symbol) {steps : Nat}
    (hsteps : n ≤ steps) :
    restriction.Judges table symbol (restriction.restrictedWithin table steps symbol) := by
  induction h generalizing steps with
  | missing =>
      rw [restrictedWithin_none]
      exact .missing
  | @last n symbol hinherits =>
      rcases Nat.exists_eq_add_of_le' hsteps with ⟨more, rfl⟩
      rw [← Nat.add_assoc, restrictedWithin]
      cases hexempt : restriction.exempts symbol with
      | true => exact .exempt hexempt
      | false =>
          cases hmarked : symbol.carries restriction.marker with
          | true => exact .marked hexempt hmarked
          | false =>
              rw [hinherits]
              exact .unmarked hexempt hmarked hinherits
  | @owned n symbol _ ih =>
      rcases Nat.exists_eq_add_of_le' hsteps with ⟨more, rfl⟩
      rw [← Nat.add_assoc, restrictedWithin]
      cases hexempt : restriction.exempts symbol with
      | true => exact .exempt hexempt
      | false =>
          cases hmarked : symbol.carries restriction.marker with
          | true => exact .marked hexempt hmarked
          | false =>
              cases hinherits : symbol.kind.inheritsFromOwner with
              | true =>
                  exact .inherited hexempt hmarked hinherits (ih (Nat.le_add_left n more))
              | false => exact .unmarked hexempt hmarked hinherits

theorem Judges.unique {first second : Bool} (hfirst : restriction.Judges table symbol first)
    (hsecond : restriction.Judges table symbol second) : first = second := by
  rcases hfirst.restrictedWithin_eq with ⟨n, hn⟩
  rcases hsecond.restrictedWithin_eq with ⟨m, hm⟩
  rw [← hn (max n m) (Nat.le_max_left n m), hm (max n m) (Nat.le_max_right n m)]

end Restriction

/-!
# Walks that do not meet the limit of levels
-/

namespace Walker

/-- From some state the step does not meet the limit of levels. -/
def Survives {α : Type} (step : Walker α) : Prop :=
  ∃ walk, (step.run walk).2.tooDeep = none

theorem Survives.bind {α β : Type} {step : Walker α} {next : α → Walker β}
    (h : Survives (step >>= next)) : ∃ value, Survives (next value) := by
  rcases h with ⟨walk, hwalk⟩
  exact ⟨(step.run walk).1, (step.run walk).2, hwalk⟩

theorem Survives.forM {β : Type} {items : List β} {step : β → Walker Unit}
    (hkeeps : ∀ item, Keeps Walk.Onward (step item)) (h : Survives (items.forM step)) {item : β}
    (hitem : item ∈ items) : Survives (step item) := by
  induction items with
  | nil => cases hitem
  | cons first rest ih =>
      rcases h with ⟨walk, hwalk⟩
      change ((rest.forM step).run ((step first).run walk).2).2.tooDeep = none at hwalk
      rcases List.mem_cons.mp hitem with heq | hlater
      · have hrest := (Walk.conserves_onward default).forM fun other (_ : other ∈ rest) =>
          hkeeps other
        rw [heq]
        exact ⟨walk, (hrest _).tooDeep hwalk⟩
      · exact ih ⟨_, hwalk⟩ hlater

theorem Survives.visit {unit : WalkedUnit} {levels : Nat} {site : Site}
    (h : Survives (visit unit levels site)) :
    ∃ below, levels = below + 1 ∧ Survives (step unit (Walker.visit unit below) site) := by
  rcases h with ⟨walk, hwalk⟩
  cases levels with
  | zero =>
      change (walk.tooDeep <|> some site.line) = none at hwalk
      cases hdeep : walk.tooDeep with
      | none =>
          rw [hdeep] at hwalk
          cases hwalk
      | some line =>
          rw [hdeep] at hwalk
          cases hwalk
  | succ below =>
      refine ⟨below, rfl, walk, ?_⟩
      change ((if walk.tooDeep.isSome = true then Pure.pure Meaning.unknown
        else step unit (Walker.visit unit below) site : Walker Meaning).run walk).2.tooDeep = none
        at hwalk
      by_cases hdeep : walk.tooDeep.isSome = true
      · rw [if_pos hdeep] at hwalk
        change walk.tooDeep = none at hwalk
        rw [hwalk] at hdeep
        cases hdeep
      · rw [if_neg hdeep] at hwalk
        exact hwalk

end Walker

/-!
# The shape of trees
-/

/-- The kinds of nodes that only hold others: units, bodies of types, and what the parser has made
nothing of. -/
def NodeKind.isContainer : NodeKind → Bool
  | .classBody | .enumBodyDeclarations | .error | .other => true
  | _ => false

/-- The root of a tree and the bodies of types only hold other nodes. -/
def Node.holdsPlainly (parent : Option Node) (node : Node) : Bool :=
  match parent with
  | none => node.kind.isContainer
  | some parent =>
      !(parent.kind.isTypeDeclaration && node.role = some .body) ||
        (node.counts && node.kind.isContainer)

theorem Walker.step_of_isContainer {unit : WalkedUnit} {visit : Visit} {site : Site}
    (hkind : site.kind.isContainer = true) :
    step unit visit site = silent (visitChildren visit site) := by
  unfold step
  revert hkind
  cases site.kind with
  | classBody | enumBodyDeclarations | error | other => exact fun _ => rfl
  | _ =>
      intro hkind
      cases hkind

theorem Walker.step_of_isTypeDeclaration {unit : WalkedUnit} {visit : Visit} {site : Site}
    (hkind : site.kind.isTypeDeclaration = true) :
    step unit visit site = silent (typeDeclaration unit visit site) := by
  unfold step
  revert hkind
  cases site.kind with
  | classDeclaration | interfaceDeclaration | enumDeclaration | annotationTypeDeclaration
  | recordDeclaration => exact fun _ => rfl
  | _ =>
      intro hkind
      cases hkind

theorem Site.mem_childrenExcept_name {site child : Site} (hchild : child ∈ site.children)
    (hrole : child.node.role ≠ some .name) (hcounts : child.node.counts = true) :
    child ∈ site.childrenExcept [site.child? .name] := by
  refine List.mem_filter.mpr ⟨List.mem_filter.mpr ⟨hchild, hcounts⟩, ?_⟩
  cases hname : site.child? .name with
  | none => rfl
  | some nameSite =>
      have hother : child.path ≠ nameSite.path := by
        intro hsame
        rcases Site.path_of_mem_children hchild with ⟨i, hnode, hpath⟩
        rcases Site.path_of_mem_children (Site.mem_children_of_child? hname) with
          ⟨j, hnode', hpath'⟩
        rw [hpath, hpath'] at hsame
        rw [(List.cons.inj hsame).1, hnode'] at hnode
        have hnameRole := Site.role_of_child? hname
        rw [Option.some.inj hnode] at hnameRole
        exact hrole hnameRole
      simp [Site.isAt, Site.same, hother]

/-- A site of a tree of that shape, visited without meeting the limit of levels. -/
structure Reached (unit : WalkedUnit) (levels : Nat) (parent : Option Node) (site : Site) :
    Prop where
  survives : Walker.Survives (Walker.visit unit levels site)
  shape : site.node.everywhere Node.holdsPlainly parent = true

namespace Reached

variable {unit : WalkedUnit} {levels : Nat} {parent : Option Node} {site : Site}

theorem children (h : Reached unit levels parent site) (hkind : site.kind.isContainer = true) :
    ∃ below, levels = below + 1 ∧ ∀ child, child ∈ site.children → child.node.counts = true →
      Reached unit below (some site.node) child := by
  rcases h.survives.visit with ⟨below, hlevels, hstep⟩
  refine ⟨below, hlevels, fun child hchild hcounts => ⟨?_, ?_⟩⟩
  · rw [Walker.step_of_isContainer hkind] at hstep
    rcases hstep with ⟨walk, hwalk⟩
    have hvisits : Walker.Survives (Walker.visitChildren (Walker.visit unit below) site) :=
      ⟨walk, hwalk⟩
    exact hvisits.forM (fun other => Walk.Conserves.discard (Walk.onward_visits unit below other))
      (List.mem_filter.mpr ⟨hchild, hcounts⟩)
  · exact Site.everywhere_of_mem_children h.shape hchild

theorem body_isContainer (h : Reached unit levels parent site)
    (hkind : site.kind.isTypeDeclaration = true) {body : Site} (hbody : body ∈ site.children)
    (hrole : body.node.role = some .body) :
    body.node.counts = true ∧ body.kind.isContainer = true := by
  have hshape := ((Node.everywhere_iff _ _ _).mp (Site.everywhere_of_mem_children h.shape hbody)).1
  change site.node.kind.isTypeDeclaration = true at hkind
  change body.node.counts = true ∧ body.node.kind.isContainer = true
  simpa [Node.holdsPlainly, hkind, hrole] using hshape

theorem body (h : Reached unit levels parent site) (hkind : site.kind.isTypeDeclaration = true) :
    ∃ below, levels = below + 1 ∧ ∀ body, body ∈ site.children → body.node.role = some .body →
      body.kind.isContainer = true ∧ Reached unit below (some site.node) body := by
  rcases h.survives.visit with ⟨below, hlevels, hstep⟩
  refine ⟨below, hlevels, fun body hbody hrole => ?_⟩
  rcases h.body_isContainer hkind hbody hrole with ⟨hcounts, hcontainer⟩
  refine ⟨hcontainer, ?_, Site.everywhere_of_mem_children h.shape hbody⟩
  rw [Walker.step_of_isTypeDeclaration hkind] at hstep
  rcases hstep with ⟨walk, hwalk⟩
  have hdeclaration : Walker.Survives
      (Walker.typeDeclaration unit (Walker.visit unit below) site) := ⟨walk, hwalk⟩
  rcases hdeclaration.bind with ⟨around, start, hstart⟩
  have hparts : Walker.Survives ((site.childrenExcept [site.child? .name]).forM
      (Walker.typeDeclarationPart (Walker.visit unit below))) := ⟨_, hstart⟩
  have hpart := hparts.forM
    (fun _ => (Walk.conserves_onward unit).of_whole
      (Runs.typeDeclarationPart (Walk.onward_visits unit below).sound))
    (Site.mem_childrenExcept_name hbody (by simp [hrole]) hcounts)
  have hplain : ¬ body.kind = .formalParameters := by
    intro hformal
    rw [hformal] at hcontainer
    cases hcontainer
  rw [Walker.typeDeclarationPart, if_neg hplain] at hpart
  exact hpart

end Reached

/-!
# Types within types
-/

namespace Declaration

variable {enclosing : List Site} {site : Site} {declaration : Declaration}

theorem kind_of_mem_ofNamed {kind : SymbolKind} (h : declaration ∈ ofNamed enclosing kind site) :
    declaration.kind = kind := by
  rcases List.mem_map.mp h with ⟨nameSite, _, heq⟩
  rw [← heq]

theorem kind_of_mem_ofFields (h : declaration ∈ ofFields enclosing site) :
    declaration.kind = .field := by
  rcases List.mem_flatMap.mp h with ⟨declarator, _, hnamed⟩
  rcases List.mem_map.mp hnamed with ⟨nameSite, _, heq⟩
  rw [← heq]

theorem kind_of_mem_ofComponents (h : declaration ∈ ofComponents enclosing site) :
    declaration.kind = .field := by
  rcases List.mem_flatMap.mp h with ⟨component, _, hnamed⟩
  exact kind_of_mem_ofNamed hnamed

theorem not_isType_of_kind {kind : SymbolKind} (hkind : declaration.kind = kind)
    (hother : kind.isType = false) : ¬ declaration.kind.isType = true := by
  rw [hkind, hother]
  exact Bool.false_ne_true

mutual

/-- Each type around costs two levels, and a type itself one. -/
theorem levels_of_mem_inNode {unit : WalkedUnit} {levels : Nat} {enclosing : List Site}
    {path : Path} {parent : Option Node} (node : Node)
    (hreached : Reached unit levels parent ⟨path, node⟩) {declaration : Declaration}
    (h : declaration ∈ inNode enclosing path node) (htype : declaration.kind.isType = true) :
    2 * declaration.enclosing.length + 1 ≤ 2 * enclosing.length + levels := by
  cases node with
  | mk kind named role line column offset length text children =>
      rw [inNode.eq_def] at h
      dsimp only at h
      by_cases hkind : kind.isTypeDeclaration = true
      · rw [if_pos hkind] at h
        rcases hreached.body hkind with ⟨below, hlevels, hbody⟩
        split at h
        · cases h
        · rcases List.mem_cons.mp h with heq | hbelow
          · rw [heq, hlevels]
            exact Nat.add_le_add_left (Nat.le_add_left 1 below) _
          · rcases List.mem_append.mp hbelow with hcomponent | hmember
            · split at hcomponent
              · exact absurd htype (not_isType_of_kind (kind_of_mem_ofComponents hcomponent) rfl)
              · cases hcomponent
            · have hinner := levels_of_mem_inBody children (fun body hmem hrole => by
                rcases hbody body hmem hrole with ⟨hcontainer, hbodyReached⟩
                exact ⟨hcontainer, _, hbodyReached⟩) hmember htype
              rw [List.length_cons] at hinner
              omega
      · rw [if_neg hkind] at h
        split at h
        · cases h
        · rcases hreached.children rfl with ⟨below, hlevels, hchildren⟩
          have hinner := levels_of_mem_inNodes children
            (fun child hmem hcounts => ⟨_, hchildren child hmem hcounts⟩) h htype
          omega
        · exact absurd htype (not_isType_of_kind (kind_of_mem_ofNamed h) rfl)
        · exact absurd htype (not_isType_of_kind (kind_of_mem_ofFields h) rfl)
        · exact absurd htype (not_isType_of_kind (kind_of_mem_ofFields h) rfl)
        · exact absurd htype (not_isType_of_kind (kind_of_mem_ofNamed h) rfl)
        · exact absurd htype (not_isType_of_kind (kind_of_mem_ofNamed h) rfl)
        · rw [List.mem_singleton.mp h] at htype
          cases htype
        · rw [List.mem_singleton.mp h] at htype
          cases htype
        · cases h

theorem levels_of_mem_inBody {unit : WalkedUnit} {levels : Nat} {enclosing : List Site}
    {path : Path} {index : Nat} (nodes : List Node)
    (hreached : ∀ body, body ∈ Site.number path index nodes → body.node.role = some .body →
      body.kind.isContainer = true ∧ ∃ parent, Reached unit levels parent body)
    {declaration : Declaration} (h : declaration ∈ inBody enclosing path index nodes)
    (htype : declaration.kind.isType = true) :
    2 * declaration.enclosing.length + 2 ≤ 2 * enclosing.length + levels := by
  cases nodes with
  | nil =>
      rw [inBody] at h
      cases h
  | cons node rest =>
      cases node with
      | mk kind named role line column offset length text members =>
          rw [inBody] at h
          by_cases hrole : role = some .body
          · rw [if_pos hrole] at h
            rcases hreached _ List.mem_cons_self hrole with ⟨hcontainer, parent, hbody⟩
            rcases hbody.children hcontainer with ⟨below, hlevels, hmembers⟩
            have hinner := levels_of_mem_inNodes members
              (fun member hmem hcounts => ⟨_, hmembers member hmem hcounts⟩) h htype
            omega
          · rw [if_neg hrole] at h
            exact levels_of_mem_inBody rest
              (fun body hmem => hreached body (List.mem_cons_of_mem _ hmem)) h htype

theorem levels_of_mem_inNodes {unit : WalkedUnit} {levels : Nat} {enclosing : List Site}
    {path : Path} {index : Nat} (nodes : List Node)
    (hreached : ∀ child, child ∈ Site.number path index nodes → child.node.counts = true →
      ∃ parent, Reached unit levels parent child)
    {declaration : Declaration} (h : declaration ∈ inNodes enclosing path index nodes)
    (htype : declaration.kind.isType = true) :
    2 * declaration.enclosing.length + 1 ≤ 2 * enclosing.length + levels := by
  cases nodes with
  | nil =>
      rw [inNodes] at h
      cases h
  | cons node rest =>
      rw [inNodes] at h
      rcases List.mem_append.mp h with hhere | hlater
      · split at hhere
        · rename_i hcounts
          rcases hreached _ List.mem_cons_self hcounts with ⟨parent, hnode⟩
          exact levels_of_mem_inNode node hnode hhere htype
        · cases hhere
      · exact levels_of_mem_inNodes rest
          (fun child hmem => hreached child (List.mem_cons_of_mem _ hmem)) hlater htype

end

end Declaration

/-!
# Owners of symbols
-/

theorem SymbolTable.EndsWithin.mono {table : SymbolTable} {n m : Nat} {symbol : Option Symbol}
    (h : table.EndsWithin n symbol) (hle : n ≤ m) : table.EndsWithin m symbol := by
  induction h generalizing m with
  | missing => exact .missing
  | last hinherits =>
      rcases Nat.exists_eq_add_of_le' hle with ⟨more, rfl⟩
      exact .last hinherits
  | owned _ ih =>
      rcases Nat.exists_eq_add_of_le' hle with ⟨more, rfl⟩
      exact .owned (ih (Nat.le_add_left _ more))

namespace Collected.HoldsUnit

variable {state : Collected} {number : Nat} {root : Node} {unit : CollectingUnit}
variable {entries : List Entry} {table : SymbolTable}

theorem endsWithin_type (h : state.HoldsUnit number root unit entries)
    (hpackages : state.PackagesSound) (hextends : state.table.Extends table) {entry : Entry}
    (hentry : entry ∈ entries) (htype : entry.IsType) (annotations : List String) :
    table.EndsWithin (entry.chain.length + 2) (some { entry.symbol with annotations }) := by
  generalize hid : entry.id = id
  induction id using Nat.strongRecOn generalizing entry annotations with
  | ind id ih =>
      apply SymbolTable.EndsWithin.owned
      cases h.placed hentry with
      | type outer declaration houter _ _ hchain _ hsymbol =>
          rw [hsymbol, hchain]
          cases outer with
          | none =>
              rcases h.located with ⟨_, hnone⟩ | ⟨_, package, hpackage, hrecorded⟩
              · change table.EndsWithin _ (unit.packageSymbol.bind _)
                rw [hnone]
                exact .missing
              · change table.EndsWithin _ (unit.packageSymbol.bind _)
                rcases hextends package _ (hpackages.symbol hrecorded) with ⟨_, hfound⟩
                rw [hpackage, Option.bind_some, hfound]
                exact .last rfl
          | some around =>
              rcases houter around rfl with ⟨haround, haroundType, hbefore⟩
              rcases hextends around.id _ (h.holds haround).symbol with ⟨written, hfound⟩
              change table.EndsWithin _ (table.get? around.id)
              rw [hfound]
              exact ih around.id (hid ▸ hbefore) haround haroundType written rfl
      | member outer name kind _ _ _ _ _ hkind hsymbol =>
          have hother := htype.1
          rw [hsymbol] at hother
          exact absurd hother (Bool.eq_false_iff.mp (SymbolKind.isType_of_isMember hkind))
      | typeParameter name owner _ hnone _ =>
          rcases htype.2 with ⟨declaration, hdeclaration⟩
          rw [hnone] at hdeclaration
          cases hdeclaration

theorem endsWithin (h : state.HoldsUnit number root unit entries)
    (hpackages : state.PackagesSound) (hextends : state.table.Extends table) {depth : Nat}
    (hdepth : ∀ around, around ∈ entries → around.IsType → around.chain.length ≤ depth)
    {entry : Entry} (hentry : entry ∈ entries) (annotations : List String) :
    table.EndsWithin (depth + 3) (some { entry.symbol with annotations }) := by
  cases h.placed hentry with
  | type outer declaration _ hdeclaration _ _ hkind hsymbol =>
      have htype : entry.IsType := by
        refine ⟨?_, declaration, hdeclaration⟩
        rw [hsymbol]
        exact hkind
      apply (h.endsWithin_type hpackages hextends hentry htype annotations).mono
      exact Nat.add_le_add (hdepth entry hentry htype) (Nat.le_succ 2)
  | member outer name kind houter htype _ _ _ _ hsymbol =>
      rcases hextends outer.id _ (h.holds houter).symbol with ⟨written, hfound⟩
      have howner := h.endsWithin_type hpackages hextends houter htype written
      apply SymbolTable.EndsWithin.owned
      rw [hsymbol]
      change table.EndsWithin _ (table.get? outer.id)
      rw [hfound]
      exact howner.mono (Nat.add_le_add_right (hdepth outer houter htype) 2)
  | typeParameter name owner _ _ hsymbol =>
      apply SymbolTable.EndsWithin.last
      rw [hsymbol]
      rfl

end Collected.HoldsUnit

namespace Program

theorem enclosing_of_usages {units : List SourceUnit} {number : Nat} {source : SourceUnit}
    (hsource : units[number]? = some source)
    (hshape : source.root.everywhere Node.holdsPlainly none = true) {history : List Nat}
    {usages : List Usage} (husages : (((ofUnits units).after history).usages number).1 = .ok usages)
    {declaration : Declaration} (hmem : declaration ∈ Declaration.inUnit number source.root)
    (htype : declaration.kind.isType = true) : declaration.enclosing.length ≤ 127 := by
  have hunit : ((ofUnits units).after history).units[number]? = some source := by
    rw [units_after]
    exact hsource
  have hdeep := ((usages_eq_ok_iff hunit).mp husages).1
  have hreached : Reached (((ofUnits units).after history).walkedUnit number source) nestingLimit
      none ⟨[number], source.root⟩ := ⟨⟨_, hdeep⟩, hshape⟩
  have hroot : source.root.kind.isContainer = true := ((Node.everywhere_iff _ _ _).mp hshape).1
  rcases hreached.children hroot with ⟨below, hlevels, hchildren⟩
  have hbound := Declaration.levels_of_mem_inNodes source.root.children
    (fun child hchild hcounts => ⟨_, hchildren child hchild hcounts⟩) hmem htype
  rw [nestingLimit] at hlevels
  rw [List.length_nil] at hbound
  omega

theorem endsWithin_after {units : List SourceUnit}
    (hshape : ∀ source, source ∈ units → source.root.everywhere Node.holdsPlainly none = true)
    (hsucceeds : ∀ number, number < units.length → ∃ history usages,
      (((ofUnits units).after history).usages number).1 = .ok usages)
    (history : List Nat) {id : SymbolId} {symbol : Symbol}
    (hsymbol : ((ofUnits units).after history).table.get? id = some symbol) :
    ((ofUnits units).after history).table.EndsWithin 130 (some symbol) := by
  rcases Collected.tells_ofUnits (units.map (·.root)) with ⟨ledger, htells⟩
  rcases get?_after_cases units history hsymbol with ⟨before, hbefore, heq⟩ | ⟨_, hlocal⟩
  · by_cases hkind : before.kind = .package
    · apply SymbolTable.EndsWithin.last
      rw [heq]
      change before.kind.inheritsFromOwner = false
      rw [hkind]
      rfl
    · rcases htells.entry_of hbefore hkind with
        ⟨number, root, unit, entries, entry, hroot, hunit, hentry, _, hentrySymbol⟩
      rw [List.getElem?_map] at hroot
      rcases Option.map_eq_some_iff.mp hroot with ⟨source, hsource, hsourceRoot⟩
      have hnumber := (List.getElem?_eq_some_iff.mp hsource).1
      rcases hsucceeds number hnumber with ⟨earlier, usages, husages⟩
      have hdepth : ∀ around, around ∈ entries → around.IsType → around.chain.length ≤ 127 := by
        intro around haround haroundType
        rcases haroundType.2 with ⟨declaration, hdeclaration⟩
        have hlength := congrArg List.length (hunit.surrounds haround hdeclaration).1.sites_eq
        rw [List.length_map, List.length_map] at hlength
        have hmem := hunit.mem_inUnit.mpr ⟨around, haround, hdeclaration⟩
        have htype := haroundType.1
        rw [(hunit.symbol_eq haround hdeclaration).2] at htype
        rw [← hsourceRoot] at hmem
        rw [← hlength]
        exact enclosing_of_usages hsource (hshape source (List.mem_of_getElem? hsource)) husages
          hmem htype
      rw [heq, ← hentrySymbol]
      exact hunit.endsWithin htells.packages (extends_after units history) hdepth hentry _
  · exact .last (Restriction.inheritsFromOwner_of_mem_appended hlocal)

/-- If usages can be extracted from every unit, the verdict on a symbol is that of a walk through
all its owners. -/
theorem isRestricted_unlimited (units : List SourceUnit)
    (hshape : ∀ source, source ∈ units → source.root.everywhere Node.holdsPlainly none = true)
    (hsucceeds : ∀ number, number < units.length → ∃ history usages,
      (((ofUnits units).after history).usages number).1 = .ok usages)
    (history : List Nat) (id : SymbolId) (symbol : Symbol)
    (hsymbol : ((ofUnits units).after history).table.get? id = some symbol)
    (restriction : Restriction) (answer : Bool) :
    restriction.Judges ((ofUnits units).after history).table (some symbol) answer ↔
      restriction.isRestricted ((ofUnits units).after history).table (some symbol) = answer := by
  have hends := endsWithin_after hshape hsucceeds history hsymbol
  have hverdict : restriction.Judges ((ofUnits units).after history).table (some symbol)
      (restriction.isRestricted ((ofUnits units).after history).table (some symbol)) :=
    Restriction.judges_of_endsWithin hends (by decide)
  constructor
  · exact fun hjudges => hverdict.unique hjudges
  · intro heq
    rw [← heq]
    exact hverdict

end Program

def markedOutside : SourceUnit where
  path := ⟨"A.java"⟩
  root := ⟨.other, true, none, 1, 1, 0, 24, "", [
    ⟨.classDeclaration, true, none, 1, 1, 0, 24, "", [
      ⟨.modifiers, true, none, 1, 1, 0, 2, "", [
        ⟨.annotationMarker, true, none, 1, 1, 0, 2, "", [
          ⟨.identifier, true, some .name, 1, 2, 1, 1, "M", []⟩]⟩]⟩,
      ⟨.identifier, true, some .name, 1, 10, 9, 1, "A", []⟩,
      ⟨.classBody, true, some .body, 1, 12, 11, 13, "", [
        ⟨.classDeclaration, true, none, 1, 14, 13, 9, "", [
          ⟨.identifier, true, some .name, 1, 20, 19, 1, "B", []⟩,
          ⟨.classBody, true, some .body, 1, 22, 21, 2, "", []⟩]⟩]⟩]⟩]⟩

theorem markedOutside_judged :
    let program := Program.ofUnits [markedOutside]
    let restriction : Restriction := { baseNamespace := "", marker := "M" }
    markedOutside.root.everywhere Node.holdsPlainly none = true ∧
      (∃ usages, (program.usages 0).1 = .ok usages) ∧
      ∃ symbol, program.table.get? 1 = some symbol ∧ symbol.name = "B" ∧
        restriction.Judges program.table (some symbol) true := by
  intro program restriction
  have hshape : markedOutside.root.everywhere Node.holdsPlainly none = true := by decide
  have husages : ∃ usages, (program.usages 0).1 = .ok usages :=
    ⟨_, (Program.usages_eq_ok_iff rfl).mpr ⟨by decide +kernel, rfl⟩⟩
  have hnames : program.table.toList.map (·.name) = ["A", "B", "<init>", "<init>"] := by
    decide +kernel
  have hverdict : restriction.isRestricted program.table (program.table.get? 1) = true := by
    decide +kernel
  cases hsymbol : program.table.get? 1 with
  | none =>
      rw [hsymbol] at hverdict
      cases hverdict
  | some symbol =>
      have hname : symbol.name = "B" := by
        have hsecond := congrArg (·[1]?) hnames
        simp only [List.getElem?_map, SymbolTable.getElem?_toList, hsymbol] at hsecond
        exact Option.some.inj hsecond
      rw [hsymbol] at hverdict
      refine ⟨hshape, husages, symbol, rfl, hname, ?_⟩
      refine (Program.isRestricted_unlimited [markedOutside] ?_ ?_ [] 1 symbol hsymbol restriction
        true).mpr hverdict
      · intro source hsource
        rw [List.mem_singleton.mp hsource]
        exact hshape
      · intro number hnumber
        rw [Nat.lt_one_iff.mp hnumber]
        exact ⟨[], husages⟩

end RestrictedApi
