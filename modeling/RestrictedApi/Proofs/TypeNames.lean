import RestrictedApi.Proofs.Chains
import RestrictedApi.Proofs.Conserved
import RestrictedApi.Proofs.Productions
import RestrictedApi.Proofs.Suppression

/-!
# Names of types are not lost

A walk over a tree that is not too deep leaves a reference at every name of a type, except where it
passes over a child.  A step finds a place if its references mention the place whenever it ends
below the limit of levels.  What comes before and after the part of a step that finds the place does
not matter, so for each kind of node it is enough to see in which part the place stands.
-/

namespace RestrictedApi

def Walk.Mentions (walk : Walk) (unit : WalkedUnit) (place : Site) : Prop :=
  ∃ reference, reference ∈ walk.references.toList ∧ reference.path = place.path ∧
    reference.usage.location = place.node.locationIn unit.file

theorem Walk.Mentions.onward {unit : WalkedUnit} {place : Site} {first second : Walk}
    (h : first.Mentions unit place) (honward : first.Onward second) :
    second.Mentions unit place := by
  rcases h with ⟨reference, hmem, hplace⟩
  exact ⟨reference, honward.references.subset hmem, hplace⟩

/-- Where nothing is muted, the step mentions the place or meets the limit of levels. -/
def Walker.Finds {α : Type} (unit : WalkedUnit) (place : Site) (step : Walker α) : Prop :=
  ∀ walk : Walk, walk.muted = 0 → (step.run walk).2.tooDeep = none →
    (step.run walk).2.Mentions unit place

namespace Walker

variable {α β : Type} {unit : WalkedUnit} {place : Site}

/-!
# Composing steps
-/

theorem Finds.bind_left {step : Walker α} {next : α → Walker β} (hstep : Finds unit place step)
    (hnext : ∀ value, Keeps Walk.Onward (next value)) : Finds unit place (step >>= next) := by
  intro walk hmuted hdeep
  have honward := hnext (step.run walk).1 (step.run walk).2
  exact Walk.Mentions.onward (hstep walk hmuted (honward.tooDeep hdeep)) honward

theorem Finds.bind_right {step : Walker α} {next : α → Walker β}
    (hstep : Keeps Walk.Onward step) (hnext : ∀ value, Finds unit place (next value)) :
    Finds unit place (step >>= next) := by
  intro walk hmuted hdeep
  exact hnext (step.run walk).1 (step.run walk).2 ((hstep walk).muted.trans hmuted) hdeep

theorem Finds.bind_get {next : Walk → Walker β} (hnext : ∀ walk, Finds unit place (next walk)) :
    Finds unit place (get >>= next) :=
  fun walk => hnext walk walk

theorem Finds.discard {step : Walker α} (hstep : Finds unit place step) :
    Finds unit place (discard step) :=
  hstep

theorem Finds.silent {step : Walker Unit} (hstep : Finds unit place step) :
    Finds unit place (silent step) :=
  hstep.bind_left fun _ => (Walk.conserves_onward unit).pure _

theorem Finds.forM {items : List β} {step : β → Walker Unit} {item : β} (hmem : item ∈ items)
    (hitem : Finds unit place (step item))
    (hkeeps : ∀ other, other ∈ items → Keeps Walk.Onward (step other)) :
    Finds unit place (items.forM step) := by
  induction items with
  | nil => cases hmem
  | cons first rest ih =>
      change Finds unit place (step first >>= fun _ => rest.forM step)
      have hothers := fun other hother => hkeeps other (List.mem_cons_of_mem first hother)
      rcases List.mem_cons.mp hmem with heq | hrest
      · rw [← heq]
        exact hitem.bind_left fun _ => (Walk.conserves_onward unit).forM hothers
      · exact Finds.bind_right (hkeeps first List.mem_cons_self) fun _ => ih hrest hothers

theorem Finds.mapM {items : List β} {step : β → Walker α} {item : β} (hmem : item ∈ items)
    (hitem : Finds unit place (step item)) (hkeeps : ∀ other, Keeps Walk.Onward (step other)) :
    Finds unit place (items.mapM step) := by
  have honward := Walk.conserves_onward unit
  induction items with
  | nil => cases hmem
  | cons first rest ih =>
      rw [List.mapM_cons]
      rcases List.mem_cons.mp hmem with heq | hrest
      · rw [← heq]
        exact hitem.bind_left fun _ => honward.bind (honward.mapM hkeeps) fun _ => honward.pure _
      · exact Finds.bind_right (hkeeps first) fun _ =>
          (ih hrest).bind_left fun _ => honward.pure _

theorem Finds.foldlM {items : List β} {step : α → β → Walker α} {item : β} (hmem : item ∈ items)
    (hitem : ∀ value, Finds unit place (step value item))
    (hkeeps : ∀ value other, Keeps Walk.Onward (step value other)) (start : α) :
    Finds unit place (items.foldlM step start) := by
  have honward := Walk.conserves_onward unit
  induction items generalizing start with
  | nil => cases hmem
  | cons first rest ih =>
      rw [List.foldlM_cons]
      rcases List.mem_cons.mp hmem with heq | hrest
      · rw [← heq]
        exact (hitem start).bind_left fun _ => honward.foldlM hkeeps _
      · exact Finds.bind_right (hkeeps start first) fun _ => ih hrest _

theorem Finds.within {step : Walker α} (hstep : Finds unit place step) (around : Enclosing) :
    Finds unit place (within around step) :=
  fun walk hmuted hdeep =>
    hstep { walk with enclosing := around :: walk.enclosing } hmuted hdeep

theorem Finds.inBlock {step : Walker α} (hstep : Finds unit place step) :
    Finds unit place (inBlock step) :=
  fun walk hmuted hdeep => hstep { walk with blocks := {} :: walk.blocks } hmuted hdeep

theorem Finds.underDeclaration {step : Walker α} (hstep : Finds unit place step) (site : Site) :
    Finds unit place (underDeclaration site step) :=
  fun walk hmuted hdeep =>
    hstep { walk with
      suppressions := (walk.silenced ++ site.suppressedWarnings) :: walk.suppressions } hmuted hdeep

theorem Finds.inSwitch {step : Walker α} (hstep : Finds unit place step)
    (selector : Option SymbolId) : Finds unit place (inSwitch selector step) :=
  fun walk hmuted hdeep =>
    hstep { walk with switches := selector :: walk.switches } hmuted hdeep

theorem finds_report (shape : UsageShape) (name : String) (target : Option SymbolId)
    (inImport : Bool) : Finds unit place (report unit place shape name target inImport) := by
  intro walk hmuted _
  change Walk.Mentions (if walk.muted > 0 then walk else _) unit place
  rw [if_neg (by omega)]
  unfold Walk.Mentions
  rw [Array.toList_push]
  exact ⟨_, List.mem_append_right _ List.mem_cons_self, rfl, rfl⟩

/-!
# Visiting
-/

/-- Every visit comes back to where it started and finds what it owes. -/
structure Seeks (unit : WalkedUnit) (place : Site) (visit : Visit) : Prop where
  onward : Walk.Conserves.Visits Walk.Onward visit
  finds : ∀ {parent site}, place.OwedIn parent site → Finds unit place (visit site)

namespace Seeks

variable {visit : Visit} {parent : Option Site} {site child : Site}

theorem visitAll (h : Seeks unit place visit) {sites : List Site} (hmem : child ∈ sites)
    (howed : place.OwedIn parent child) : Finds unit place (visitAll visit sites) :=
  Finds.forM hmem (h.finds howed).discard fun other _ => h.onward other

theorem visitEach (h : Seeks unit place visit) {sites : List Site} (hmem : child ∈ sites)
    (howed : place.OwedIn parent child) : Finds unit place (visitEach visit sites) := by
  have honward := Walk.conserves_onward unit
  refine Finds.mapM hmem ?_ fun other => honward.bind (h.onward other) fun _ => honward.pure _
  exact (h.finds howed).bind_left fun _ => honward.pure _

theorem visit? (h : Seeks unit place visit) (howed : place.OwedIn parent child)
    {found : Option Site} (hfound : found = some child) :
    Finds unit place (visit? visit found) := by
  rw [hfound]
  exact h.finds howed

theorem visitChildren (h : Seeks unit place visit) (howed : place.OwedIn parent site)
    (hkind : site.kind ≠ .typeIdentifier) : Finds unit place (visitChildren visit site) := by
  rcases howed.exists_child hkind with ⟨child, hchild⟩
  exact h.visitAll hchild.mem hchild.owed

/-!
# Names
-/

theorem typeIdentifier (howed : place.OwedIn parent site) (hkind : site.kind = .typeIdentifier) :
    Finds unit place (typeIdentifier unit site) := by
  have honward := Walk.conserves_onward unit
  rw [← howed.eq_of_typeIdentifier hkind, Walker.typeIdentifier]
  simp only [if_neg howed.text]
  exact Finds.bind_get fun _ => (finds_report _ _ _ _).bind_left fun _ => honward.pure _

theorem typeOrPackage (unit : WalkedUnit) (place : Site) :
    Finds unit place (typeOrPackage unit place) := by
  have honward := Walk.conserves_onward unit
  have hlookup : Keeps Walk.Onward (simpleType? unit place.text) :=
    Walk.Conserves.bind_get fun _ => honward.pure _
  apply Finds.bind_right hlookup
  intro target
  cases target with
  | none => exact (finds_report _ _ _ _).bind_left fun _ => honward.pure _
  | some type => exact (finds_report _ _ _ _).bind_left fun _ => honward.pure _

theorem mem_of_lastTypeIdentifier {last : Site} (hlast : lastTypeIdentifier? site = some last) :
    last ∈ site.namedChildren ∧ last.kind = .typeIdentifier := by
  have hmem := List.mem_filter.mp (List.mem_of_getLast? hlast)
  exact ⟨hmem.1, of_decide_eq_true hmem.2⟩

mutual

theorem scopedType (h : Seeks unit place visit) (path : Path) (node : Node)
    (hkind : node.kind = .scopedTypeIdentifier) {parent : Option Site}
    (howed : place.OwedIn parent ⟨path, node⟩) :
    Finds unit place (scopedType unit visit path node) := by
  have honward := Walk.conserves_onward unit
  cases node with
  | mk kind named role line column offset length text children =>
      rw [Walker.scopedType]
      have hnodes : ∀ child, child ∈ Site.number path 0 children → child ∈ Site.children
          ⟨path, ⟨kind, named, role, line, column, offset, length, text, children⟩⟩ :=
        fun _ hchild => hchild
      rcases howed.exists_child (by rw [Site.kind, hkind]; decide) with ⟨child, hthrough⟩
      rcases hthrough with ⟨hchild, -, -, hbelow⟩
      cases hlast : lastTypeIdentifier? _ with
      | none => exact (h.visitAll hchild hbelow).bind_left fun _ => honward.pure _
      | some last =>
          by_cases hsame : child.same last = true
          · rcases mem_of_lastTypeIdentifier hlast with ⟨hmem, htype⟩
            have hself : child = last := Site.eq_of_path
              (Site.mem_children_of_mem_namedChildren hchild)
              (Site.mem_children_of_mem_namedChildren hmem) (by simpa [Site.same] using hsame)
            rw [← hself] at htype ⊢
            rw [← hbelow.eq_of_typeIdentifier htype]
            exact Finds.bind_right
              (honward.of_runs (Runs.scopedTypeParts h.onward.sound _ true children hnodes))
              fun _ => (finds_report _ _ _ _).bind_left fun _ => honward.pure _
          · refine Finds.bind_left ?_ fun _ =>
              honward.bind (honward.reports _ _ _ _ _) fun _ => honward.pure _
            have hmem := List.mem_filter.mp hchild
            exact scopedTypeParts h last path 0 true children hnodes hmem.1 hmem.2 hsame hbelow

theorem scopedTypeParts (h : Seeks unit place visit) (last : Site) (path : Path) (index : Nat)
    (first : Bool) (nodes : List Node) {whole child : Site}
    (hnodes : ∀ part, part ∈ Site.number path index nodes → part ∈ whole.children)
    (hchild : child ∈ Site.number path index nodes) (hcounts : child.node.counts = true)
    (hlast : ¬child.same last = true) {parent : Option Site}
    (howed : place.OwedIn parent child) :
    Finds unit place (scopedTypeParts unit visit last path index first nodes) := by
  have honward := Walk.conserves_onward unit
  cases nodes with
  | nil => cases hchild
  | cons node rest =>
      have hothers : ∀ part, part ∈ Site.number path (index + 1) rest → part ∈ whole.children :=
        fun part hpart => hnodes part (List.mem_cons_of_mem _ hpart)
      rw [Walker.scopedTypeParts]
      rcases List.mem_cons.mp hchild with rfl | hrest
      · have hnext : ∀ meaning : Meaning, Keeps Walk.Onward
            (Walker.scopedTypeParts unit visit last path (index + 1) false rest >>= fun others =>
              pure (if first = true then meaning else others)) :=
          fun _ => honward.bind
            (honward.of_runs (Runs.scopedTypeParts h.onward.sound last false rest hothers))
            fun _ => honward.pure _
        simp only [if_pos hcounts, if_neg hlast]
        by_cases hfirst : (node.kind = .typeIdentifier && first) = true
        · simp only [if_pos hfirst]
          rw [Bool.and_eq_true, decide_eq_true_eq] at hfirst
          rw [← howed.eq_of_typeIdentifier hfirst.1]
          exact (typeOrPackage unit place).bind_left hnext
        · simp only [if_neg hfirst]
          by_cases hscoped : node.kind = .scopedTypeIdentifier
          · simp only [if_pos hscoped]
            exact (scopedType h (index :: path) node hscoped howed).bind_left hnext
          · simp only [if_neg hscoped]
            exact (h.finds howed).bind_left hnext
      · have hfinds (first : Bool) :=
          scopedTypeParts h last path (index + 1) first rest hothers hrest hcounts hlast howed
        cases node.counts with
        | false => exact hfinds first
        | true =>
            have hnext : ∀ meaning : Meaning, Finds unit place
                (Walker.scopedTypeParts unit visit last path (index + 1) false rest >>=
                  fun others => pure (if first = true then meaning else others)) :=
              fun _ => (hfinds false).bind_left fun _ => honward.pure _
            rw [if_pos rfl]
            dsimp only
            split
            · exact Finds.bind_right (honward.pure _) hnext
            · split
              · rename_i hfirst
                rw [Bool.and_eq_true, decide_eq_true_eq] at hfirst
                exact Finds.bind_right (honward.of_whole
                  (Runs.typeOrPackage (Node.isNameToken_of_typeIdentifier hfirst.1))) hnext
              · split
                · rename_i hscoped
                  exact Finds.bind_right
                    (honward.of_whole (Runs.scopedType h.onward.sound node hscoped)) hnext
                · exact Finds.bind_right (h.onward _) hnext

end

theorem visitList (h : Seeks unit place visit) (howed : place.OwedIn parent child)
    (hrole : child.node.role ∈ [some .arguments, some .parameters, some .body])
    {found : Option Site} (hfound : found = some child) {next : Walker α}
    (hnext : Keeps Walk.Onward next) :
    Finds unit place
      (match found with
      | none => next
      | some list => do
          Walker.visitChildren visit list
          next) := by
  rw [hfound]
  exact (h.visitChildren howed (howed.produced.kind_ne_typeIdentifier hrole)).bind_left
    fun _ => hnext

theorem annotationArgument (h : Seeks unit place visit) (type : Option SymbolId)
    (howed : place.OwedIn parent site) :
    Finds unit place (annotationArgument unit visit type site) := by
  have honward := Walk.conserves_onward unit
  unfold Walker.annotationArgument
  by_cases hpair : site.kind = .elementValuePair
  · simp only [if_pos hpair]
    rcases howed.exists_in_role (by rw [hpair]; decide) (by rw [hpair]; rfl) (by rw [hpair]; rfl)
      with ⟨role, hrole, child, hchild, hbelow⟩
    rw [hpair] at hrole
    rw [List.mem_singleton.mp hrole] at hchild
    have hvalue := (h.visit? hbelow hchild).discard
    cases site.child? .key with
    | none => exact hvalue
    | some key => exact Finds.bind_right (honward.reports _ _ _ _ _) fun _ => hvalue
  · simp only [if_neg hpair]
    exact (h.finds howed).discard

theorem annotationUse (h : Seeks unit place visit) (hkind : site.kind.isAnnotationUse = true)
    (howed : place.OwedIn parent site) : Finds unit place (annotationUse unit visit site) := by
  have honward := Walk.conserves_onward unit
  have hpicked : site.kind.pickedRoles = [.arguments] ∧ site.kind.pickedKinds = [] ∧
      site.kind.soleRoles = [.arguments] := by
    revert hkind
    cases site.kind <;> decide
  rcases howed.exists_in_role (by simp [hpicked]) hpicked.2.1 (by rw [hpicked.1, hpicked.2.2])
    with ⟨role, hrole, arguments, hchild, hbelow⟩
  rw [hpicked.1, List.mem_singleton] at hrole
  rw [hrole] at hchild
  have hlist := hbelow.produced.kind_ne_typeIdentifier (by simp [Site.role_of_child? hchild])
  rcases hbelow.exists_child hlist with ⟨argument, hargument⟩
  have harguments (type : Option SymbolId) : Finds unit place
      (arguments.namedChildren.forM (Walker.annotationArgument unit visit type)) :=
    Finds.forM hargument.mem (h.annotationArgument type hargument.owed)
      fun _ _ => honward.of_whole (Runs.annotationArgument h.onward.sound type)
  unfold Walker.annotationUse
  simp only [hchild]
  cases hname : site.child? .name with
  | none => exact harguments none
  | some nameSite =>
      have hrole := Site.role_of_child? hname
      exact Finds.bind_right (honward.of_runs (Runs.nameAt false
        (fun _ => Node.enteredFrom_of_annotation hkind (Or.inl hrole))
        (by simp [Node.holdsDottedName, hrole]))) fun _ => harguments _

/-!
# Expressions
-/

theorem linkReceiver (h : Seeks unit place visit) (howed : place.OwedIn parent child)
    (hchild : site.child? .object = some child) :
    Finds unit place (linkReceiver unit visit site none) := by
  simp only [Walker.linkReceiver, hchild, receiverAt]
  rw [if_neg (howed.kind_ne rfl)]
  exact h.finds howed

theorem fieldAccess (h : Seeks unit place visit) (howed : place.OwedIn parent child)
    (hchild : site.child? .object = some child) :
    Finds unit place (fieldAccess unit visit site none) := by
  have honward := Walk.conserves_onward unit
  apply (h.linkReceiver howed hchild).bind_left
  intro qualifier
  cases site.child? .field with
  | none => exact honward.pure _
  | some field =>
      dsimp only
      split
      · exact honward.pure _
      · exact honward.bind (honward.reports _ _ _ _ _) fun _ => honward.pure _

theorem methodInvocation (h : Seeks unit place visit) {role : Role}
    (howed : place.OwedIn parent child)
    (hrole : role ∈ [Role.object, .typeArguments, .arguments])
    (hchild : site.child? role = some child) (given : Option Meaning)
    (hgiven : role = .object → given = none) :
    Finds unit place (methodInvocation unit visit site given) := by
  have honward := Walk.conserves_onward unit
  unfold Walker.methodInvocation
  cases site.child? .name with
  | none =>
      have hmem : child ∈ site.namedChildren :=
        List.mem_filter.mpr ⟨Site.mem_children_of_child? hchild, howed.counts⟩
      exact (h.visitAll hmem howed).bind_left fun _ => honward.pure _
  | some nameSite =>
      have hkeeps (target : Option SymbolId) := honward.bind
        (honward.visit? h.onward (site.child? .typeArguments)) fun _ =>
          honward.visitArguments h.onward (site.child? .arguments)
            (honward.pure (Meaning.ofType? (target.bind unit.decls.valueType?)))
      by_cases hobject : role = .object
      · rw [hobject] at hchild
        rw [hgiven hobject]
        simp only [hchild]
        refine (h.linkReceiver howed hchild).bind_left fun receiver => ?_
        exact honward.bind (honward.reports _ _ _ _ _) fun _ => hkeeps _
      · have hfinds (target : Option SymbolId) : Finds unit place
            (Functor.discard (Walker.visit? visit (site.child? .typeArguments)) >>= fun _ =>
              match site.child? .arguments with
              | none => pure (Meaning.ofType? (target.bind unit.decls.valueType?))
              | some arguments => do
                  Walker.visitChildren visit arguments
                  pure (Meaning.ofType? (target.bind unit.decls.valueType?))) := by
          simp only [List.mem_cons, List.not_mem_nil, or_false, hobject, false_or] at hrole
          rcases hrole with rfl | rfl
          · refine (h.visit? howed hchild).discard.bind_left fun _ => ?_
            exact honward.visitArguments h.onward _ (honward.pure _)
          · refine Finds.bind_right (honward.visit? h.onward _) fun _ => ?_
            exact h.visitList howed (by simp [Site.role_of_child? hchild]) hchild (honward.pure _)
        cases site.child? .object with
        | some object =>
            refine Finds.bind_right (honward.of_runs (Runs.linkReceiver h.onward.sound given))
              fun receiver => ?_
            exact Finds.bind_right (honward.reports _ _ _ _ _) fun _ => hfinds _
        | none =>
            have hmethod : Keeps Walk.Onward (methodInScope? unit nameSite.text
                ((site.child? .arguments).map Site.argumentCount)) :=
              Walk.Conserves.bind_get fun _ => honward.pure _
            refine Finds.bind_right hmethod fun target => ?_
            exact Finds.bind_right (honward.reports _ _ _ _ _) fun _ => hfinds target

theorem memberLink (h : Seeks unit place visit) (hkind : site.kind.isMemberLink = true)
    {role : Role} (hrole : role ∈ site.kind.pickedRoles) (howed : place.OwedIn parent child)
    (hchild : site.child? role = some child) (given : Option Meaning)
    (hgiven : role = .object → given = none) :
    Finds unit place (memberLink unit visit given site) := by
  unfold Walker.memberLink
  by_cases hcall : site.kind = .methodInvocation
  · rw [if_pos hcall]
    rw [hcall] at hrole
    exact h.methodInvocation howed hrole hchild given hgiven
  · have haccess : site.kind = .fieldAccess := by
      revert hkind hcall
      cases site.kind <;> decide
    rw [haccess] at hrole
    have hobject : role = .object := List.mem_singleton.mp hrole
    rw [if_neg hcall, hgiven hobject]
    exact h.fieldAccess howed (hobject ▸ hchild)

/-- A chain finds what is owed in its links: what stands before a dot is walked before the link. -/
theorem memberWalk (h : Seeks unit place visit) (hkind : site.kind.isMemberLink = true)
    (howed : place.OwedIn parent site) : Finds unit place (memberWalk unit visit site) := by
  have honward := Walk.conserves_onward unit
  have hpicked : ∀ kind : NodeKind, kind.isMemberLink = true →
      kind.pickedRoles ≠ [] ∧ kind.pickedKinds = [] ∧ kind.soleRoles = kind.pickedRoles := by
    intro kind
    cases kind <;> decide
  fun_induction Walker.memberWalk unit visit site generalizing parent with
  | case1 site hobject =>
      rcases hpicked site.kind hkind with ⟨hroles, hkinds, hsole⟩
      rcases howed.exists_in_role hroles hkinds hsole with ⟨role, hrole, child, hchild, hbelow⟩
      exact h.memberLink hkind hrole hbelow hchild none fun _ => rfl
  | case2 site object hobject hlink ih =>
      rcases hpicked site.kind hkind with ⟨hroles, hkinds, hsole⟩
      rcases howed.exists_in_role hroles hkinds hsole with ⟨role, hrole, child, hchild, hbelow⟩
      by_cases hbefore : role = .object
      · rw [hbefore, hobject] at hchild
        rw [← Option.some.inj hchild] at hbelow
        exact (ih hlink hbelow).bind_left fun _ =>
          honward.of_runs (Runs.memberLink h.onward.sound _)
      · have hkeeps : Keeps Walk.Onward (Walker.memberWalk unit visit object) := by
          rw [← memberChain_eq_memberWalk]
          exact honward.of_runs (Runs.memberChain h.onward.sound)
        exact Finds.bind_right hkeeps fun _ =>
          h.memberLink hkind hrole hbelow hchild _ fun heq => absurd heq hbefore
  | case3 site object hobject hlink =>
      rcases hpicked site.kind hkind with ⟨hroles, hkinds, hsole⟩
      rcases howed.exists_in_role hroles hkinds hsole with ⟨role, hrole, child, hchild, hbelow⟩
      exact h.memberLink hkind hrole hbelow hchild none fun _ => rfl

theorem operatorWalk (h : Seeks unit place visit) (hkind : site.kind = .binaryExpression)
    (howed : place.OwedIn parent site) : Finds unit place (operatorWalk visit site) := by
  have honward := Walk.conserves_onward unit
  fun_induction Walker.operatorWalk visit site generalizing parent with
  | case1 site hleft =>
      rcases howed.exists_in_pair (by rw [hkind]; rfl) (by rw [hkind]; rfl) (by rw [hkind]; rfl)
        with ⟨child, hbelow, hchild | hchild⟩
      · rw [hleft] at hchild
        cases hchild
      · exact (h.visit? hbelow hchild).discard
  | case2 site left hleft hlink ih =>
      rcases howed.exists_in_pair (by rw [hkind]; rfl) (by rw [hkind]; rfl) (by rw [hkind]; rfl)
        with ⟨child, hbelow, hchild | hchild⟩
      · rw [hleft] at hchild
        rw [← Option.some.inj hchild] at hbelow
        exact (ih (of_decide_eq_true hlink) hbelow).bind_left fun _ => honward.visit? h.onward _
      · have hkeeps : Keeps Walk.Onward (Walker.operatorWalk visit left) := by
          rw [← operatorChain_eq_operatorWalk]
          exact honward.of_runs (Runs.operatorChain h.onward.sound)
        exact Finds.bind_right hkeeps fun _ => (h.visit? hbelow hchild).discard
  | case3 site left hleft hlink =>
      rcases howed.exists_in_pair (by rw [hkind]; rfl) (by rw [hkind]; rfl) (by rw [hkind]; rfl)
        with ⟨child, hbelow, hchild | hchild⟩
      · rw [hleft] at hchild
        rw [← Option.some.inj hchild] at hbelow
        exact (h.finds hbelow).discard.bind_left fun _ => honward.visit? h.onward _
      · exact Finds.bind_right (h.onward left) fun _ => (h.visit? hbelow hchild).discard

theorem assignment (h : Seeks unit place visit) (hkind : site.kind = .assignmentExpression)
    (howed : place.OwedIn parent site) : Finds unit place (assignment visit site) := by
  have honward := Walk.conserves_onward unit
  rcases howed.exists_in_pair (by rw [hkind]; rfl) (by rw [hkind]; rfl) (by rw [hkind]; rfl)
    with ⟨child, hbelow, hchild | hchild⟩
  · refine (h.visit? hbelow hchild).bind_left fun _ => ?_
    exact honward.bind (honward.visit? h.onward _) fun _ => honward.pure _
  · refine Finds.bind_right (honward.visit? h.onward _) fun _ => ?_
    exact (h.visit? hbelow hchild).discard.bind_left fun _ => honward.pure _

theorem cast (h : Seeks unit place visit) (hkind : site.kind = .castExpression)
    (howed : place.OwedIn parent site) : Finds unit place (cast visit site) := by
  have honward := Walk.conserves_onward unit
  rcases howed.exists_picked (by rw [hkind]; rfl) with ⟨child, hthrough, hpicked⟩
  simp only [hkind, NodeKind.pickedRoles, NodeKind.pickedKinds, List.not_mem_nil, or_false,
    List.mem_pair, exists_eq_or_imp, exists_eq_left] at hpicked
  rcases hpicked with hrole | hrole
  · refine (h.visit? hthrough.owed (hthrough.child?_type hkind hrole)).bind_left fun _ => ?_
    exact honward.bind (honward.visit? h.onward _) fun _ => honward.pure _
  · have hchild := howed.child?_eq hthrough (by rw [hkind]; decide) hrole
    refine Finds.bind_right (honward.visit? h.onward _) fun _ => ?_
    exact (h.visit? hthrough.owed hchild).discard.bind_left fun _ => honward.pure _

theorem switch (h : Seeks unit place visit) (hkind : site.kind = .switchExpression)
    (howed : place.OwedIn parent site) : Finds unit place (switch visit site) := by
  have honward := Walk.conserves_onward unit
  rcases howed.exists_in_pair (by rw [hkind]; rfl) (by rw [hkind]; rfl) (by rw [hkind]; rfl)
    with ⟨child, hbelow, hchild | hchild⟩
  · refine (h.visit? hbelow hchild).bind_left fun selector walk => ?_
    exact honward.inSwitch selector.receiver? (honward.visit? h.onward _ _)
  · refine Finds.bind_right (honward.visit? h.onward _) fun selector => ?_
    exact (h.visit? hbelow hchild).discard.inSwitch selector.receiver?

theorem switchLabel (h : Seeks unit place visit) (hkind : site.kind = .switchLabel)
    (howed : place.OwedIn parent site) : Finds unit place (switchLabel unit visit site) := by
  have honward := Walk.conserves_onward unit
  rcases howed.exists_child (by rw [hkind]; decide) with ⟨child, hthrough⟩
  refine Finds.forM hthrough.mem ?_ fun _ _ => honward.of_whole (Runs.labelPart h.onward.sound)
  -- nothing is owed in a bare name, which may stand for a constant
  have hname : child.kind ≠ .identifier := hthrough.owed.kind_ne rfl
  refine Finds.bind_get fun walk => ?_
  have hselector : ((walk.switches.head?.getD none).filter fun _ => child.kind = .identifier) =
      none := by
    simp [hname]
  simp only [hselector, Option.bind_none]
  exact (h.finds hthrough.owed).discard

theorem onwardBody (h : Seeks unit place visit) (supertype : Option SymbolId) (body : Site) :
    Keeps Walk.Onward (anonymousBody visit supertype body) :=
  have honward := Walk.conserves_onward unit
  honward.keepsWithin _ (honward.keepsInBlock (honward.visitChildren h.onward body))

theorem anonymousBody (h : Seeks unit place visit) (supertype : Option SymbolId)
    (howed : place.OwedIn parent site) (hkind : site.kind ≠ .typeIdentifier) :
    Finds unit place (anonymousBody visit supertype site) :=
  (h.visitChildren howed hkind).inBlock.within _

theorem objectCreation (h : Seeks unit place visit) (hkind : site.kind = .objectCreation)
    (howed : place.OwedIn parent site) : Finds unit place (objectCreation visit site) := by
  have honward := Walk.conserves_onward unit
  rcases howed.exists_child (by rw [hkind]; decide) with ⟨child, hthrough⟩
  have hbody (meaning : Meaning) : Keeps Walk.Onward
      (match site.childOfKind? .classBody with
      | none => pure (Meaning.ofType? meaning.type?)
      | some body => do
          Walker.anonymousBody visit meaning.type? body
          pure (Meaning.ofType? meaning.type?)) := by
    cases site.childOfKind? .classBody with
    | none => exact honward.pure _
    | some body =>
        exact honward.bind (h.onwardBody _ body) fun _ => honward.pure _
  have hcreated (meaning : Meaning) :=
    honward.visitArguments h.onward (site.child? .arguments) (hbody meaning)
  by_cases htype : site.child? .type = some child
  · refine Finds.bind_right (honward.visitAll h.onward _) fun _ => ?_
    exact (h.visit? hthrough.owed htype).bind_left hcreated
  by_cases harguments : site.child? .arguments = some child
  · refine Finds.bind_right (honward.visitAll h.onward _) fun _ => ?_
    refine Finds.bind_right (honward.visit? h.onward _) fun meaning => ?_
    exact h.visitList hthrough.owed (by simp [Site.role_of_child? harguments]) harguments
      (hbody meaning)
  by_cases hclass : site.childOfKind? .classBody = some child
  · refine Finds.bind_right (honward.visitAll h.onward _) fun _ => ?_
    refine Finds.bind_right (honward.visit? h.onward _) fun meaning => ?_
    have hfinds := (h.anonymousBody meaning.type? hthrough.owed
      (by rw [Site.kind_of_childOfKind? hclass]; decide)).bind_left
        fun _ => honward.pure (Meaning.ofType? meaning.type?)
    rw [hclass]
    cases site.child? .arguments with
    | none => exact hfinds
    | some arguments => exact Finds.bind_right (honward.visitChildren h.onward _) fun _ => hfinds
  · refine Finds.bind_left (h.visitAll (hthrough.mem_childrenExcept ?_ ?_) hthrough.owed)
      fun _ => honward.bind (honward.visit? h.onward _) hcreated
    · simp only [List.mem_cons, List.not_mem_nil, or_false, not_or]
      exact ⟨Ne.symm htype, Ne.symm harguments, Ne.symm hclass⟩
    · intro other hother
      simp only [List.mem_cons, List.not_mem_nil, or_false] at hother
      rcases hother with hother | hother | hother
      · exact Site.mem_children_of_child? hother.symm
      · exact Site.mem_children_of_child? hother.symm
      · exact Site.mem_children_of_childOfKind? hother.symm

theorem methodReference (h : Seeks unit place visit) (hkind : site.kind = .methodReference)
    (howed : place.OwedIn parent site) : Finds unit place (methodReference unit visit site) := by
  have honward := Walk.conserves_onward unit
  rcases howed.exists_child (by rw [hkind]; decide) with ⟨child, hthrough⟩
  have hmem := hthrough.mem
  have hexempt := hthrough.exempt
  unfold Walker.methodReference
  cases hnamed : site.namedChildren with
  | nil =>
      rw [hnamed] at hmem
      cases hmem
  | cons qualifier rest =>
      have harguments : child ∈ rest.filter fun part => part.kind = .typeArguments := by
        have hother : child ≠ qualifier := by
          rintro rfl
          simp [Site.exempts, hkind, hnamed, Site.isAt, Site.same] at hexempt
        have hrest : child ∈ rest :=
          (List.mem_cons.mp (hnamed ▸ hmem)).resolve_left hother
        have hpart := howed.produced.part_of_methodReference hkind (by rw [hnamed]; exact hrest)
        rw [hthrough.owed.not_silent] at hpart
        exact List.mem_filter.mpr ⟨hrest, by simpa using hpart⟩
      refine Finds.bind_right (honward.of_whole (Runs.referenceQualifier h.onward.sound))
        fun meaning => ?_
      refine (h.visitAll harguments hthrough.owed).bind_left fun _ => ?_
      cases site.children.getLast? with
      | none => exact honward.pure ()
      | some member => exact honward.of_whole (Runs.referencedMember meaning.receiver?)

theorem constructorParts (h : Seeks unit place visit)
    (hkind : site.kind = .explicitConstructorInvocation) (howed : place.OwedIn parent site)
    {rest : Walker Unit} (hkeeps : Keeps Walk.Onward rest)
    (hrest : ∀ arguments, site.child? .arguments = some arguments →
      place.OwedIn (some site) arguments → Finds unit place rest) :
    Finds unit place (do
      discard (Walker.visit? visit (site.child? .object))
      discard (Walker.visit? visit (site.childOfKind? .typeArguments))
      rest) := by
  have honward := Walk.conserves_onward unit
  rcases howed.exists_picked (by rw [hkind]; rfl) with ⟨child, hthrough, hpicked⟩
  simp only [hkind, NodeKind.pickedRoles, NodeKind.pickedKinds, List.mem_pair, List.mem_singleton,
    exists_eq_or_imp, exists_eq_left] at hpicked
  rcases hpicked with (hrole | hrole) | htype
  · have hchild := howed.child?_eq hthrough (by rw [hkind]; decide) hrole
    refine (h.visit? hthrough.owed hchild).discard.bind_left fun _ => ?_
    exact honward.bind (honward.visit? h.onward _) fun _ => hkeeps
  · have hchild := howed.child?_eq hthrough (by rw [hkind]; decide) hrole
    refine Finds.bind_right (honward.visit? h.onward _) fun _ => ?_
    exact Finds.bind_right (honward.visit? h.onward _) fun _ => hrest child hchild hthrough.owed
  · have hchild := howed.produced.childOfKind?_eq hthrough.mem (by rw [hkind, htype]; decide)
    rw [htype] at hchild
    refine Finds.bind_right (honward.visit? h.onward _) fun _ => ?_
    exact (h.visit? hthrough.owed hchild).discard.bind_left fun _ => hkeeps

theorem constructorInvocation (h : Seeks unit place visit)
    (hkind : site.kind = .explicitConstructorInvocation) (howed : place.OwedIn parent site) :
    Finds unit place (constructorInvocation unit visit site) := by
  have honward := Walk.conserves_onward unit
  have hkeeps := honward.of_runs (Runs.visitArguments h.onward.sound (Or.inr (Or.inr hkind)))
  have hfinds (arguments : Site) (hchild : site.child? .arguments = some arguments)
      (hbelow : place.OwedIn (some site) arguments) : Finds unit place
        (match site.child? .arguments with
        | none => pure ()
        | some arguments => Walker.visitChildren visit arguments) := by
    rw [hchild]
    exact h.visitChildren hbelow
      (hbelow.produced.kind_ne_typeIdentifier (by simp [Site.role_of_child? hchild]))
  unfold Walker.constructorInvocation
  cases site.child? .constructor with
  | none => exact h.constructorParts hkind howed hkeeps hfinds
  | some keyword =>
      refine h.constructorParts hkind howed ?_ fun arguments hchild hbelow => ?_
      · exact Walk.Conserves.bind_get fun _ =>
          honward.bind (honward.reports _ _ _ _ _) fun _ => hkeeps
      · exact Finds.bind_get fun _ =>
          Finds.bind_right (honward.reports _ _ _ _ _) fun _ => hfinds arguments hchild hbelow

/-!
# Types and members
-/

theorem parameterPart (h : Seeks unit place visit) (howed : place.OwedIn parent child)
    (hname : isParameterName child.kind = false) (type : Option SymbolId) :
    Finds unit place (parameterPart visit isParameterName type child) := by
  have honward := Walk.conserves_onward unit
  unfold Walker.parameterPart
  rw [if_neg (by simp [hname])]
  split
  · exact (h.finds howed).discard.bind_left fun _ => honward.pure type
  · split
    · rename_i hcatch
      rcases howed.exists_child (by rw [hcatch]; decide) with ⟨part, hpart⟩
      refine (h.visitEach hpart.mem hpart.owed).bind_left fun visited => ?_
      split
      · exact honward.pure _
      · exact honward.pure type
    · exact (h.finds howed).bind_left fun _ => honward.pure _

theorem parameterType (h : Seeks unit place visit) (hsite : site.node.isComponent = true)
    (howed : place.OwedIn parent site) : Finds unit place (parameterType visit site) := by
  have honward := Walk.conserves_onward unit
  have hkind : site.kind ≠ .typeIdentifier := by
    intro hkind
    rw [Site.kind] at hkind
    simp [Node.isComponent, hkind, NodeKind.isParameter] at hsite
  rcases howed.exists_child hkind with ⟨child, hthrough⟩
  rcases hthrough.parameter_part hsite with ⟨hpart, hnames⟩
  have hname : isParameterName child.kind = false := by
    revert hnames
    cases child.kind <;> decide
  exact Finds.foldlM hpart (h.parameterPart hthrough.owed hname)
    (fun type _ => honward.of_whole (Runs.parameterPart h.onward.sound _ type)) none

theorem typeDeclarationPart (h : Seeks unit place visit) (howed : place.OwedIn parent site) :
    Finds unit place (typeDeclarationPart visit site) := by
  have honward := Walk.conserves_onward unit
  unfold Walker.typeDeclarationPart
  split
  · rename_i hlist
    rcases howed.exists_child (by rw [hlist]; decide) with ⟨component, hthrough⟩
    have hcomponent := hthrough.owed.produced.isComponent hthrough.owed.counts hlist
    exact Finds.forM hthrough.mem (h.parameterType hcomponent hthrough.owed).discard
      fun _ _ => honward.of_runs (Runs.parameterType h.onward.sound)
  · exact (h.finds howed).discard

theorem typeDeclaration (h : Seeks unit place visit) (hkind : site.kind.isTypeDeclaration = true)
    (howed : place.OwedIn parent site) : Finds unit place (typeDeclaration unit visit site) := by
  have honward := Walk.conserves_onward unit
  have hdeclares : site.kind.declaresName = true := by simp [NodeKind.declaresName, hkind]
  rcases howed.exists_child (by intro htype; rw [htype] at hkind; cases hkind) with
    ⟨child, hthrough⟩
  have hparts := Finds.forM (hthrough.mem_childrenExcept_name (hthrough.ne_name hdeclares))
    (h.typeDeclarationPart hthrough.owed)
    (fun _ _ => honward.of_whole (Runs.typeDeclarationPart h.onward.sound))
  have hlookup : Runs unit (fun _ => Walk.Onward) (.inside site) (enclosingOf unit site) :=
    Runs.enclosingOf
  refine Finds.bind_right (honward.of_runs hlookup) fun around => ?_
  exact (hparts.inBlock.within around).underDeclaration site

theorem methodDeclaration (h : Seeks unit place visit) (hkind : site.kind.isMethod = true)
    (howed : place.OwedIn parent site) : Finds unit place (methodDeclaration unit visit site) := by
  have hdeclares : site.kind.declaresName = true := by simp [NodeKind.declaresName, hkind]
  rcases howed.exists_child (by intro htype; rw [htype] at hkind; cases hkind) with
    ⟨child, hthrough⟩
  apply Finds.underDeclaration
  have hparts := h.visitAll (hthrough.mem_childrenExcept_name (hthrough.ne_name hdeclares))
    hthrough.owed
  -- the block has been opened and its type parameters are in scope
  intro walk hmuted hdeep
  have hopens : walk.OpensBlock unit _ := Walk.OpensBlock.empty.openTypeParameters site
  rcases hopens.eq with ⟨block, table, hopened⟩
  exact hparts _ ((congrArg Walk.muted hopened).trans hmuted) hdeep

theorem enumConstant (h : Seeks unit place visit) (hkind : site.kind = .enumConstant)
    (howed : place.OwedIn parent site) : Finds unit place (enumConstant visit site) := by
  have honward := Walk.conserves_onward unit
  rcases howed.exists_child (by rw [hkind]; decide) with ⟨child, hthrough⟩
  apply Finds.underDeclaration
  by_cases hbody : site.child? .body = some child
  · refine Finds.bind_right (honward.visitAll h.onward _) fun _ => ?_
    simp only [hbody]
    refine Finds.bind_get fun _ => h.anonymousBody _ hthrough.owed ?_
    exact hthrough.owed.produced.kind_ne_typeIdentifier (by simp [Site.role_of_child? hbody])
  · refine Finds.bind_left (h.visitAll (hthrough.mem_childrenExcept ?_ ?_) hthrough.owed)
      fun _ => ?_
    · simp only [List.mem_cons, List.not_mem_nil, or_false, not_or]
      exact ⟨Ne.symm (hthrough.ne_name (by rw [hkind]; rfl)), Ne.symm hbody⟩
    · intro other hother
      simp only [List.mem_cons, List.not_mem_nil, or_false] at hother
      rcases hother with hother | hother
      · exact Site.mem_children_of_child? hother.symm
      · exact Site.mem_children_of_child? hother.symm
    · cases site.child? .body with
      | none => exact honward.pure ()
      | some body => exact Walk.Conserves.bind_get fun _ => h.onwardBody _ body

/-!
# Variables and patterns
-/

theorem variableValue (h : Seeks unit place visit) (hkind : site.kind = .variableDeclarator)
    (howed : place.OwedIn parent site) :
    Finds unit place (Walker.visit? visit (site.child? .value)) := by
  rcases howed.exists_picked (by rw [hkind]; rfl) with ⟨child, hthrough, hpicked⟩
  simp only [hkind, NodeKind.pickedRoles, NodeKind.pickedKinds, List.mem_singleton,
    exists_eq_left] at hpicked
  rcases hpicked with hrole | hdimensions
  · exact h.visit? hthrough.owed (howed.child?_eq hthrough (by rw [hkind]; decide) hrole)
  · exact absurd hdimensions hthrough.kind_ne_dimensions

theorem localVariables (h : Seeks unit place visit)
    (hkind : site.kind = .localVariableDeclaration) (howed : place.OwedIn parent site) :
    Finds unit place (localVariables unit visit site) := by
  have honward := Walk.conserves_onward unit
  apply Finds.underDeclaration
  have hvariables (inferred : Bool) (type : Option SymbolId) : Keeps Walk.Onward
      ((site.childrenIn .declarator).forM (localVariable unit visit inferred type)) :=
    honward.forM fun declarator _ =>
      honward.of_runs (Runs.localVariable h.onward.sound inferred type)
  rcases howed.exists_picked (by rw [hkind]; rfl) with ⟨child, hthrough, hpicked⟩
  simp only [hkind, NodeKind.pickedRoles, NodeKind.pickedKinds, List.mem_pair, List.mem_singleton,
    exists_eq_or_imp, exists_eq_left] at hpicked
  rcases hpicked with (hrole | hrole) | hmodifiers
  · have hchild := howed.child?_eq hthrough (by rw [hkind]; decide) hrole
    -- a type that is left open is a type name, and nothing is owed in that
    have hopen : child.text ≠ "var" := by
      intro hvar
      have htype := hthrough.owed.produced.kind_of_var hrole hvar
      exact howed.text (hthrough.owed.eq_of_typeIdentifier htype ▸ hvar)
    simp only [hchild, Option.any_some, hopen, decide_false, Bool.not_false, Option.filter_some,
      if_true]
    refine (h.visit? hthrough.owed rfl).bind_left fun _ => ?_
    exact honward.bind (honward.visit? h.onward _) fun _ => hvariables _ _
  · refine Finds.bind_right (honward.visit? h.onward _) fun _ => ?_
    refine Finds.bind_right (honward.visit? h.onward _) fun _ => ?_
    have hmem : child ∈ site.childrenIn .declarator :=
      List.mem_filter.mpr
        ⟨Site.mem_children_of_mem_namedChildren hthrough.mem, by simpa using hrole⟩
    refine Finds.forM hmem ?_ fun _ _ => honward.of_runs (Runs.localVariable h.onward.sound _ _)
    have hvariable := hthrough.owed.produced.kind_of_declarator hrole
    exact (h.variableValue hvariable hthrough.owed).bind_left fun _ => honward.declares _ _ _
  · have hchild := howed.produced.childOfKind?_eq hthrough.mem (by rw [hkind, hmodifiers]; decide)
    rw [hmodifiers] at hchild
    refine Finds.bind_right (honward.visit? h.onward _) fun _ => ?_
    exact (h.visit? hthrough.owed hchild).discard.bind_left fun _ => hvariables _ _

theorem parameter (h : Seeks unit place visit) (hkind : site.kind.isParameter = true)
    (howed : place.OwedIn parent site) : Finds unit place (parameter unit visit site) := by
  have hcomponent : site.node.isComponent = true := by
    rw [Site.kind] at hkind
    simp [Node.isComponent, hkind]
  exact (h.parameterType hcomponent howed).bind_left
    fun _ => (Walk.conserves_onward unit).declares _ _ _

theorem variableType (h : Seeks unit place visit) (hthrough : place.OwedThrough site child)
    (roles : List Role)
    (hothers : ∀ role, role ∈ Role.name :: roles → site.child? role ≠ some child) :
    Finds unit place (variableType visit site roles) := by
  have honward := Walk.conserves_onward unit
  have hmem : child ∈ site.childrenExcept ((Role.name :: roles).map site.child?) := by
    apply hthrough.mem_childrenExcept
    · intro hmem
      rcases List.mem_map.mp hmem with ⟨role, hrole, hchild⟩
      exact hothers role hrole hchild
    · intro other hother
      rcases List.mem_map.mp hother with ⟨role, -, hchild⟩
      exact Site.mem_children_of_child? hchild
  refine Finds.foldlM hmem ?_ ?_ none
  · intro type
    rw [if_neg hthrough.kind_ne_dimensions]
    exact (h.finds hthrough.owed).bind_left fun _ => honward.pure _
  · intro type part
    split
    · exact honward.pure type
    · exact honward.bind (h.onward part) fun _ => honward.pure _

theorem enhancedFor (h : Seeks unit place visit) (hkind : site.kind = .enhancedForStatement)
    (howed : place.OwedIn parent site) : Finds unit place (enhancedFor unit visit site) := by
  have honward := Walk.conserves_onward unit
  rcases howed.exists_child (by rw [hkind]; decide) with ⟨child, hthrough⟩
  have hname := hthrough.ne_name (by rw [hkind]; rfl)
  apply Finds.inBlock
  by_cases hbody : site.child? .body = some child
  · refine Finds.bind_right (honward.of_runs (Runs.variableType h.onward.sound _)) fun _ => ?_
    refine Finds.bind_right (honward.visit? h.onward _) fun _ => ?_
    refine Finds.bind_right (honward.declares _ _ _) fun _ => ?_
    exact (h.visit? hthrough.owed hbody).discard
  have hlast (type : Option SymbolId) := honward.bind
    (honward.declares (site.child? .name) .localVariable type)
    fun _ => honward.visit? h.onward (site.child? .body)
  by_cases hvalue : site.child? .value = some child
  · refine Finds.bind_right (honward.of_runs (Runs.variableType h.onward.sound _)) fun type => ?_
    exact (h.visit? hthrough.owed hvalue).discard.bind_left fun _ => hlast type
  · refine Finds.bind_left (h.variableType hthrough _ ?_) fun type => ?_
    · simp [hname, hvalue, hbody]
    · exact honward.bind (honward.visit? h.onward _) fun _ => hlast type

theorem resource (h : Seeks unit place visit) (hkind : site.kind = .resource)
    (howed : place.OwedIn parent site) : Finds unit place (resource unit visit site) := by
  have honward := Walk.conserves_onward unit
  rcases howed.exists_child (by rw [hkind]; decide) with ⟨child, hthrough⟩
  have hname := hthrough.ne_name (by rw [hkind]; rfl)
  unfold Walker.resource
  cases hvariable : site.child? .name with
  | none => exact h.visitAll hthrough.mem hthrough.owed
  | some nameSite =>
      by_cases hvalue : site.child? .value = some child
      · refine Finds.bind_right (honward.of_runs (Runs.variableType h.onward.sound _))
          fun type => ?_
        exact (h.visit? hthrough.owed hvalue).discard.bind_left fun _ => honward.declares _ _ _
      · refine Finds.bind_left (h.variableType hthrough _ ?_) fun type => ?_
        · simp [hname, hvalue]
        · exact honward.bind (honward.visit? h.onward _) fun _ => honward.declares _ _ _

theorem lambdaParameters (h : Seeks unit place visit) (hrole : site.node.role = some .parameters)
    (howed : place.OwedIn parent site) :
    Finds unit place (lambdaParameters unit visit site) := by
  unfold Walker.lambdaParameters
  split
  · rename_i hname
    exact absurd hname (howed.kind_ne rfl)
  · rename_i hinferred
    rcases howed.exists_picked (by rw [hinferred]; rfl) with ⟨child, -, hpicked⟩
    simp [hinferred, NodeKind.pickedRoles, NodeKind.pickedKinds] at hpicked
  · exact h.visitChildren howed (howed.produced.kind_ne_typeIdentifier (by simp [hrole]))

theorem lambda (h : Seeks unit place visit) (hkind : site.kind = .lambdaExpression)
    (howed : place.OwedIn parent site) : Finds unit place (lambda unit visit site) := by
  have honward := Walk.conserves_onward unit
  apply Finds.inBlock
  rcases howed.exists_in_pair (by rw [hkind]; rfl) (by rw [hkind]; rfl) (by rw [hkind]; rfl)
    with ⟨child, hbelow, hchild | hchild⟩
  · simp only [hchild]
    exact (h.lambdaParameters (Site.role_of_child? hchild) hbelow).bind_left
      fun _ => honward.visit? h.onward _
  · have hbody := (h.visit? hbelow hchild).discard
    cases hparameters : site.child? .parameters with
    | none => exact hbody
    | some parameters =>
        have hentered := Node.enteredFrom_of_parameters hkind (Site.role_of_child? hparameters)
        exact Finds.bind_right
          (honward.of_runs (Runs.lambdaParameters h.onward.sound fun _ => hentered)) fun _ => hbody

theorem typeTest (h : Seeks unit place visit) (hkind : site.kind = .instanceofExpression)
    (howed : place.OwedIn parent site) : Finds unit place (typeTest unit visit site) := by
  rcases howed.exists_child (by rw [hkind]; decide) with ⟨child, hthrough⟩
  have hname := hthrough.ne_name (by rw [hkind]; rfl)
  exact (h.visitEach (hthrough.mem_childrenExcept_name hname) hthrough.owed).bind_left
    fun _ => (Walk.conserves_onward unit).declares _ _ _

theorem typePattern (h : Seeks unit place visit) (hkind : site.kind ≠ .typeIdentifier)
    (howed : place.OwedIn parent site) : Finds unit place (typePattern unit visit site) := by
  have honward := Walk.conserves_onward unit
  rcases howed.exists_child hkind with ⟨child, hthrough⟩
  refine (Finds.foldlM hthrough.mem ?_
    (fun type _ => honward.of_whole (Runs.patternPart h.onward.sound type)) none).discard
  intro type
  unfold Walker.patternPart
  split
  · rename_i hname
    exact absurd hname (hthrough.owed.kind_ne rfl)
  · exact (h.finds hthrough.owed).discard.bind_left fun _ => honward.pure type
  · exact (h.finds hthrough.owed).bind_left fun _ => honward.pure _

theorem typeParameter (h : Seeks unit place visit) (hkind : site.kind = .typeParameter)
    (howed : place.OwedIn parent site) : Finds unit place (typeParameter visit site) := by
  rcases howed.exists_child (by rw [hkind]; decide) with ⟨child, hthrough⟩
  refine h.visitAll (hthrough.mem_childrenExcept ?_ ?_) hthrough.owed
  · intro hmem
    have hexempt := hthrough.exempt
    simp [Site.exempts, hkind, ← List.mem_singleton.mp hmem, Site.isAt, Site.same] at hexempt
  · intro other hother
    exact Site.mem_children_of_childOfKind? (List.mem_singleton.mp hother).symm

theorem labeledStatement (h : Seeks unit place visit) (hkind : site.kind = .labeledStatement)
    (howed : place.OwedIn parent site) :
    Finds unit place (Walker.visitAll visit (site.namedChildren.drop 1)) := by
  rcases howed.exists_child (by rw [hkind]; decide) with ⟨child, hthrough⟩
  have hmem := hthrough.mem
  cases hnamed : site.namedChildren with
  | nil =>
      rw [hnamed] at hmem
      cases hmem
  | cons label rest =>
      rw [hnamed] at hmem
      rcases List.mem_cons.mp hmem with rfl | hrest
      · have hsilent := howed.produced.silent_label hkind hnamed
        rw [hthrough.owed.not_silent] at hsilent
        cases hsilent
      · exact h.visitAll hrest hthrough.owed

theorem isAnnotationUse_of_mem_annotations (hkind : site.kind = .packageDeclaration)
    (hchild : child ∈ site.annotations) : child.kind.isAnnotationUse = true := by
  rw [Site.annotations, if_pos hkind] at hchild
  exact (List.mem_filter.mp hchild).2

theorem packageAnnotations (h : Seeks unit place visit) (hkind : site.kind = .packageDeclaration)
    (howed : place.OwedIn parent site) :
    Finds unit place (site.annotations.forM (Walker.annotationUse unit visit)) := by
  rcases howed.exists_picked (by rw [hkind]; rfl) with ⟨child, hthrough, hpicked⟩
  have huse : child.kind.isAnnotationUse = true := by
    simp only [hkind, NodeKind.pickedRoles, NodeKind.pickedKinds, List.not_mem_nil, false_and,
      exists_const, false_or, List.mem_pair] at hpicked
    rcases hpicked with huse | huse <;> rw [huse] <;> rfl
  have hmem : child ∈ site.annotations := by
    simp only [Site.annotations, hkind, if_true, Option.map_some, Option.getD_some]
    exact List.mem_filter.mpr ⟨hthrough.mem, huse⟩
  exact Finds.forM hmem (h.annotationUse huse hthrough.owed)
    fun other hother => (Walk.conserves_onward unit).of_whole
      (Runs.annotationUse h.onward.sound (isAnnotationUse_of_mem_annotations hkind hother))

/-!
# Visits
-/

theorem step (h : Seeks unit place visit) (howed : place.OwedIn parent site) :
    Finds unit place (step unit visit site) := by
  have hnothing : ¬(site.kind.picks = true ∧ site.kind.pickedRoles = [] ∧
      site.kind.pickedKinds = []) := by
    rintro ⟨hpicks, hroles, hkinds⟩
    rcases howed.pickedRoles_ne_nil hpicks with hne | hne
    · exact hne hroles
    · exact hne hkinds
  unfold Walker.step
  cases hkind : site.kind with
  | packageDeclaration => exact (h.packageAnnotations hkind howed).silent
  | importDeclaration | breakStatement | continueStatement | identifier | scopedIdentifier
  | thisKeyword => exact absurd (by rw [hkind]; decide) hnothing
  | lineComment | blockComment =>
      have hcounts := howed.counts
      rw [Site.kind] at hkind
      simp [Node.counts, hkind, NodeKind.isComment] at hcounts
  | moduleDeclaration =>
      rcases howed.exists_child (by rw [hkind]; decide) with ⟨child, hthrough⟩
      have hdropped := hthrough.dropped
      simp [Site.drops, hkind] at hdropped
  | classDeclaration | interfaceDeclaration | enumDeclaration | annotationTypeDeclaration
  | recordDeclaration => exact (h.typeDeclaration (by rw [hkind]; rfl) howed).silent
  | fieldDeclaration | constantDeclaration =>
      exact ((h.visitChildren howed (by rw [hkind]; decide)).underDeclaration site).silent
  | methodDeclaration | constructorDeclaration | compactConstructorDeclaration
  | annotationElementDeclaration => exact (h.methodDeclaration (by rw [hkind]; rfl) howed).silent
  | enumConstant => exact (h.enumConstant hkind howed).silent
  | localVariableDeclaration => exact (h.localVariables hkind howed).silent
  | formalParameter | spreadParameter | catchFormalParameter =>
      exact (h.parameter (by rw [hkind]; rfl) howed).silent
  | variableDeclarator => exact (h.variableValue hkind howed).discard.silent
  | block | constructorBody | staticInitializer | switchGroup | switchRule | forStatement
  | catchClause | tryWithResources =>
      exact (h.visitChildren howed (by rw [hkind]; decide)).inBlock.silent
  | enhancedForStatement => exact (h.enhancedFor hkind howed).silent
  | resource => exact (h.resource hkind howed).silent
  | lambdaExpression => exact (h.lambda hkind howed).silent
  | labeledStatement => exact (h.labeledStatement hkind howed).silent
  | explicitConstructorInvocation => exact (h.constructorInvocation hkind howed).silent
  | typeIdentifier => exact typeIdentifier howed hkind
  | scopedTypeIdentifier => exact h.scopedType site.path site.node hkind howed
  | genericType | ternaryExpression =>
      rcases howed.exists_child (by rw [hkind]; decide) with ⟨child, hthrough⟩
      exact (h.visitEach hthrough.mem hthrough.owed).bind_left
        fun _ => (Walk.conserves_onward unit).pure _
  | typeParameter => exact (h.typeParameter hkind howed).silent
  | annotationMarker | annotationCall => exact (h.annotationUse (by rw [hkind]; rfl) howed).silent
  | fieldAccess | methodInvocation =>
      rw [memberChain_eq_memberWalk]
      exact h.memberWalk (by rw [hkind]; rfl) howed
  | binaryExpression =>
      rw [operatorChain_eq_operatorWalk]
      exact (h.operatorWalk hkind howed).silent
  | switchExpression => exact (h.switch hkind howed).silent
  | switchLabel => exact (h.switchLabel hkind howed).silent
  | objectCreation => exact h.objectCreation hkind howed
  | methodReference => exact (h.methodReference hkind howed).silent
  | castExpression => exact h.cast hkind howed
  | parenthesizedExpression =>
      rcases howed.exists_child (by rw [hkind]; decide) with ⟨child, hthrough⟩
      exact h.visit? hthrough.owed (howed.produced.parenthesized hkind hthrough.mem)
  | assignmentExpression => exact h.assignment hkind howed
  | instanceofExpression => exact (h.typeTest hkind howed).silent
  | typePattern | recordPatternComponent =>
      exact (h.typePattern (by rw [hkind]; decide) howed).silent
  | _ => exact (h.visitChildren howed (by rw [hkind]; decide)).silent

end Seeks

/-- By induction on the number of levels, every visit finds what it owes. -/
theorem seeks_visit (unit : WalkedUnit) (place : Site) (levels : Nat) :
    Seeks unit place (visit unit levels) := by
  refine ⟨Walk.onward_visits unit levels, ?_⟩
  induction levels with
  | zero =>
      intro parent site _ walk _ hdeep
      change (walk.tooDeep <|> some site.line) = none at hdeep
      cases hwalk : walk.tooDeep <;> simp [hwalk] at hdeep
  | succ levels ih =>
      intro parent site howed walk hmuted
      change (((if walk.tooDeep.isSome = true then pure .unknown else _) : Walker Meaning).run
        walk).2.tooDeep = none → Walk.Mentions (((if walk.tooDeep.isSome = true then _ else _) :
          Walker Meaning).run walk).2 unit place
      split
      · rename_i hlimit
        intro hdeep
        have hnone : walk.tooDeep = none := hdeep
        rw [hnone] at hlimit
        cases hlimit
      · exact Seeks.step ⟨Walk.onward_visits unit levels, ih⟩ howed walk hmuted

end Walker

/-- A unit whose usages can be extracted has one at every name of a type, unless a node on the way
to the name passes over the part in which it stands. -/
theorem Program.type_names_reported (program : Program) {number : Nat} {source : SourceUnit}
    (hsource : program.units[number]? = some source)
    (hshape : source.root.everywhere Node.isProduced none = true) {usages : List Usage}
    (husages : (program.usages number).1 = .ok usages) {place : Site}
    (hkind : place.kind = .typeIdentifier) (htext : place.text ≠ "var")
    (hshown : place.ShownIn ⟨[number], source.root⟩) :
    ∃ usage, usage ∈ usages ∧ usage.location = place.node.locationIn source.path := by
  have howed : place.OwedIn none ⟨[number], source.root⟩ := ⟨hshape, hkind, htext, hshown⟩
  rcases (usages_eq_ok_iff hsource).mp husages with ⟨hdeep, hreferences⟩
  have hseeks := Walker.seeks_visit (program.walkedUnit number source) place nestingLimit
  rcases hseeks.finds howed { table := program.table } rfl hdeep with
    ⟨reference, hmem, -, hlocation⟩
  refine ⟨reference.usage, ?_, hlocation⟩
  rw [← hreferences]
  exact List.mem_map_of_mem hmem

/-- The class `class A { Object f(Object o, int... n = new B()) { return (A & B) o; } }`. -/
def intersectionCast : Node :=
  ⟨.classDeclaration, true, none, 1, 1, 0, 72, "", [
    ⟨.identifier, true, some .name, 1, 7, 6, 1, "A", []⟩,
    ⟨.classBody, true, some .body, 1, 9, 8, 64, "", [
      ⟨.methodDeclaration, true, none, 1, 11, 10, 60, "", [
        ⟨.typeIdentifier, true, some .type, 1, 11, 10, 6, "Object", []⟩,
        ⟨.identifier, true, some .name, 1, 18, 17, 1, "f", []⟩,
        ⟨.formalParameters, true, some .parameters, 1, 19, 18, 30, "", [
          ⟨.formalParameter, true, none, 1, 20, 19, 8, "", [
            ⟨.typeIdentifier, true, some .type, 1, 20, 19, 6, "Object", []⟩,
            ⟨.identifier, true, some .name, 1, 27, 26, 1, "o", []⟩]⟩,
          ⟨.spreadParameter, true, none, 1, 30, 29, 18, "", [
            ⟨.other, true, none, 1, 30, 29, 3, "int", []⟩,
            ⟨.variableDeclarator, true, none, 1, 37, 36, 11, "", [
              ⟨.identifier, true, some .name, 1, 37, 36, 1, "n", []⟩,
              ⟨.objectCreation, true, some .value, 1, 41, 40, 7, "", [
                ⟨.typeIdentifier, true, some .type, 1, 45, 44, 1, "B", []⟩,
                ⟨.other, true, some .arguments, 1, 46, 45, 2, "", []⟩]⟩]⟩]⟩]⟩,
        ⟨.block, true, some .body, 1, 50, 49, 21, "", [
          ⟨.other, true, none, 1, 52, 51, 17, "", [
            ⟨.castExpression, true, none, 1, 59, 58, 9, "", [
              ⟨.typeIdentifier, true, some .type, 1, 60, 59, 1, "A", []⟩,
              ⟨.typeIdentifier, true, some .type, 1, 64, 63, 1, "B", []⟩,
              ⟨.identifier, true, some .value, 1, 67, 66, 1, "o", []⟩]⟩]⟩]⟩]⟩]⟩]⟩

/-- The module `@Ann(c = B.class) module m {}`. -/
def annotatedModule : Node :=
  ⟨.moduleDeclaration, true, none, 3, 1, 84, 29, "", [
    ⟨.annotationCall, true, none, 3, 1, 84, 17, "", [
      ⟨.identifier, true, some .name, 3, 2, 85, 3, "Ann", []⟩,
      ⟨.other, true, some .arguments, 3, 5, 88, 13, "", [
        ⟨.elementValuePair, true, none, 3, 6, 89, 11, "", [
          ⟨.identifier, true, some .key, 3, 6, 89, 1, "c", []⟩,
          ⟨.other, true, some .value, 3, 10, 93, 7, "", [
            ⟨.typeIdentifier, true, none, 3, 10, 93, 1, "B", []⟩]⟩]⟩]⟩]⟩,
    ⟨.identifier, true, some .name, 3, 26, 109, 1, "m", []⟩,
    ⟨.other, true, some .body, 3, 28, 111, 2, "{}", []⟩]⟩

def passedTypes : SourceUnit where
  path := ⟨"A.java"⟩
  root :=
    ⟨.other, true, none, 1, 1, 0, 114, "", [
      intersectionCast,
      ⟨.classDeclaration, true, none, 2, 1, 73, 10, "", [
        ⟨.identifier, true, some .name, 2, 7, 79, 1, "B", []⟩,
        ⟨.classBody, true, some .body, 2, 9, 81, 2, "", []⟩]⟩,
      annotatedModule]⟩

/-- The first type of the cast is reported. -/
theorem intersectionCast_first_type_reported :
    let program := Program.ofUnits [passedTypes]
    ∃ place : Site, place.kind = .typeIdentifier ∧ place.text = "A" ∧
      place.ShownIn ⟨[0], passedTypes.root⟩ ∧
      ∃ usages usage, (program.usages 0).1 = .ok usages ∧ usage ∈ usages ∧
        usage.location = place.node.locationIn ⟨"A.java"⟩ := by
  intro program
  let place : Site := ⟨[0, 0, 0, 3, 0, 1, 0, 0],
    ⟨.typeIdentifier, true, some .type, 1, 60, 59, 1, "A", []⟩⟩
  have hshown : place.ShownIn ⟨[0], passedTypes.root⟩ :=
    .child (List.mem_of_getElem? (i := 0) rfl) rfl rfl <|
    .child (List.mem_of_getElem? (i := 1) rfl) rfl rfl <|
    .child (List.mem_of_getElem? (i := 0) rfl) rfl rfl <|
    .child (List.mem_of_getElem? (i := 3) rfl) rfl rfl <|
    .child (List.mem_of_getElem? (i := 0) rfl) rfl rfl <|
    .child (List.mem_of_getElem? (i := 0) rfl) rfl rfl <|
    .child (List.mem_of_getElem? (i := 0) rfl) rfl rfl .here
  have hdeep : (program.walk 0 passedTypes).tooDeep = none := by decide +kernel
  have husages := (Program.usages_eq_ok_iff rfl).mpr ⟨hdeep, rfl⟩
  have hkind : place.kind = .typeIdentifier := rfl
  rcases program.type_names_reported rfl (by decide +kernel) husages hkind (by decide) hshown with
    ⟨usage, hmem, hlocation⟩
  exact ⟨place, rfl, rfl, hshown, _, usage, husages, hmem, hlocation⟩

/-- The second type of the cast, the type in the initial value of the parameter and the one in the
annotation of the module have no usage. -/
theorem passedTypes_unreported :
    let program := Program.ofUnits [passedTypes]
    let names := [[0, 1, 0, 3, 0, 0, 1], [0, 1, 0, 2, 1, 1, 1, 0], [2, 0, 1, 0, 1, 0]].filterMap
      (Site.descend? ⟨[0], passedTypes.root⟩)
    passedTypes.root.everywhere Node.isProduced none = true ∧
      names.map (fun name => (name.kind, name.text)) =
        List.replicate 3 (.typeIdentifier, "B") ∧
      ∃ usages, (program.usages 0).1 = .ok usages ∧ ∀ usage ∈ usages, ∀ name ∈ names,
        usage.location ≠ name.node.locationIn ⟨"A.java"⟩ := by
  intro program names
  have hdeep : (program.walk 0 passedTypes).tooDeep = none := by decide +kernel
  refine ⟨by decide +kernel, by decide +kernel, _,
    (Program.usages_eq_ok_iff rfl).mpr ⟨hdeep, rfl⟩, ?_⟩
  decide +kernel

end RestrictedApi
