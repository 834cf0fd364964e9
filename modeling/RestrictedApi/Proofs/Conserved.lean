import RestrictedApi.Proofs.Run.Visit

/-!
# What every walk conserves

A relation between the states before and after is conserved by every walk if it is by the changes
that runs are made of.  Every step of a walk is a run in which visits keep the relation, so the step
keeps it, too.  Type parameters are brought into scope only with a new block, so a relation may
speak of the type parameters of the blocks.  One such relation is that the second state has the
surroundings of the first.
-/

namespace RestrictedApi

/-- The changes that a walk is made of keep the relation between an earlier and a later state. -/
structure Walk.Conserves (unit : WalkedUnit) (related : Walk → Walk → Prop) : Prop where
  refl : ∀ walk, related walk walk
  trans : ∀ {first second third}, related first second → related second third →
    related first third
  report : ∀ walk site shape name target inImport,
    related walk ((Walker.report unit site shape name target inImport).run walk).2
  declare : ∀ walk nameSite kind type,
    related walk ((Walker.declare unit (some nameSite) kind type).run walk).2
  within : ∀ {first second : Walk} (around : Enclosing),
    related { first with enclosing := around :: first.enclosing } second →
    related first { second with enclosing := second.enclosing.tail }
  inBlock : ∀ {first opened second : Walk}, first.OpensBlock unit opened → related opened second →
    related first { second with blocks := second.blocks.tail }
  underDeclaration : ∀ {first second : Walk} (warnings : List String),
    related { first with suppressions := warnings :: first.suppressions } second →
    related first { second with suppressions := second.suppressions.tail }
  inSwitch : ∀ {first second : Walk} (selector : Option SymbolId),
    related { first with switches := selector :: first.switches } second →
    related first { second with switches := second.switches.tail }
  unheard : ∀ {first second : Walk}, related { first with muted := first.muted + 1 } second →
    related first { second with muted := second.muted - 1 }

/-- The step leads to a related state, from whichever state it starts. -/
def Walker.Keeps {α : Type} (related : Walk → Walk → Prop) (step : Walker α) : Prop :=
  ∀ walk, related walk (step.run walk).2

namespace Walk.Conserves

variable {α β : Type} {unit : WalkedUnit} {related : Walk → Walk → Prop} {visit : Visit}

/-!
# Runs
-/

theorem of_run (h : Conserves unit related) {place : Place} {first second : Walk}
    (hrun : Run unit (fun _ => related) place first second) : related first second := by
  induction hrun with
  | refl _ walk => exact h.refl walk
  | trans _ _ ih ih' => exact h.trans ih ih'
  | visit hvisited => exact hvisited
  | child _ _ ih | enter _ _ ih => exact ih
  | declaration _ _ ih => exact h.underDeclaration _ ih
  | within around _ ih => exact h.within around ih
  | inBlock hopens _ ih => exact h.inBlock hopens ih
  | inSwitch selector _ ih => exact h.inSwitch selector ih
  | unheard _ ih => exact h.unheard ih
  | report inImport _ => exact h.report _ _ _ _ _ inImport
  | declare nameSite type _ => exact h.declare _ nameSite _ type

theorem of_runs (h : Conserves unit related) {place : Place} {step : Walker α}
    (hstep : Runs unit (fun _ => related) place step) : Walker.Keeps related step :=
  fun walk => h.of_run (hstep walk)

theorem of_whole (h : Conserves unit related) {site : Site} {step : Walker α}
    (hstep : Runs unit (fun _ => related) (.whole none site) step) : Walker.Keeps related step :=
  h.of_runs hstep

/-!
# Composing steps
-/

theorem pure (h : Conserves unit related) (value : α) :
    Walker.Keeps related (pure value : Walker α) :=
  h.refl

theorem bind (h : Conserves unit related) {step : Walker α} {next : α → Walker β}
    (hstep : Walker.Keeps related step) (hnext : ∀ value, Walker.Keeps related (next value)) :
    Walker.Keeps related (step >>= next) :=
  fun walk => h.trans (hstep walk) (hnext (step.run walk).1 (step.run walk).2)

theorem bind_get {next : Walk → Walker β} (hnext : ∀ walk, Walker.Keeps related (next walk)) :
    Walker.Keeps related (get >>= next) :=
  fun walk => hnext walk walk

theorem discard {step : Walker α} (hstep : Walker.Keeps related step) :
    Walker.Keeps related (discard step) :=
  hstep

theorem forM (h : Conserves unit related) {items : List β} {step : β → Walker Unit}
    (hstep : ∀ item, item ∈ items → Walker.Keeps related (step item)) :
    Walker.Keeps related (items.forM step) := by
  induction items with
  | nil => exact h.pure ()
  | cons item rest ih =>
      change Walker.Keeps related (step item >>= fun _ => rest.forM step)
      apply h.bind (hstep item List.mem_cons_self)
      intro _
      exact ih fun other hother => hstep other (List.mem_cons_of_mem item hother)

theorem mapM (h : Conserves unit related) {items : List β} {step : β → Walker α}
    (hstep : ∀ item, Walker.Keeps related (step item)) :
    Walker.Keeps related (items.mapM step) := by
  induction items with
  | nil => exact h.pure []
  | cons item rest ih =>
      rw [List.mapM_cons]
      exact h.bind (hstep item) fun _ => h.bind ih fun _ => h.pure _

theorem foldlM (h : Conserves unit related) {items : List β} {step : α → β → Walker α}
    (hstep : ∀ value item, Walker.Keeps related (step value item)) (start : α) :
    Walker.Keeps related (items.foldlM step start) := by
  induction items generalizing start with
  | nil => exact h.pure start
  | cons item rest ih =>
      rw [List.foldlM_cons]
      exact h.bind (hstep start item) ih

theorem reports (h : Conserves unit related) (site : Site) (shape : UsageShape) (name : String)
    (target : Option SymbolId) (inImport : Bool) :
    Walker.Keeps related (Walker.report unit site shape name target inImport) :=
  fun walk => h.report walk site shape name target inImport

theorem declares (h : Conserves unit related) (nameSite : Option Site) (kind : SymbolKind)
    (type : Option SymbolId) : Walker.Keeps related (Walker.declare unit nameSite kind type) := by
  cases nameSite with
  | none => exact h.pure ()
  | some nameSite => exact fun walk => h.declare walk nameSite kind type

theorem keepsWithin (h : Conserves unit related) (around : Enclosing) {step : Walker α}
    (hstep : Walker.Keeps related step) : Walker.Keeps related (Walker.within around step) :=
  fun _ => h.within around (hstep _)

theorem keepsInBlock (h : Conserves unit related) {step : Walker α}
    (hstep : Walker.Keeps related step) : Walker.Keeps related (Walker.inBlock step) :=
  fun _ => h.inBlock .empty (hstep _)

/-!
# Visiting
-/

def Visits (related : Walk → Walk → Prop) (visit : Visit) : Prop :=
  ∀ site, Walker.Keeps related (visit site)

theorem visitAll (h : Conserves unit related) (hvisit : Visits related visit)
    (sites : List Site) : Walker.Keeps related (Walker.visitAll visit sites) :=
  h.forM fun site _ => discard (hvisit site)

theorem visitChildren (h : Conserves unit related) (hvisit : Visits related visit) (site : Site) :
    Walker.Keeps related (Walker.visitChildren visit site) :=
  h.visitAll hvisit site.namedChildren

theorem visitEach (h : Conserves unit related) (hvisit : Visits related visit)
    (sites : List Site) : Walker.Keeps related (Walker.visitEach visit sites) :=
  h.mapM fun site => h.bind (hvisit site) fun _ => h.pure _

theorem visit? (h : Conserves unit related) (hvisit : Visits related visit) (site : Option Site) :
    Walker.Keeps related (Walker.visit? visit site) := by
  cases site with
  | none => exact h.pure Meaning.unknown
  | some site => exact hvisit site

theorem visitArguments (h : Conserves unit related) (hvisit : Visits related visit)
    (arguments : Option Site) {next : Walker α} (hnext : Walker.Keeps related next) :
    Walker.Keeps related
      (match arguments with
      | none => next
      | some arguments => do
          Walker.visitChildren visit arguments
          next) := by
  cases arguments with
  | none => exact hnext
  | some arguments => exact h.bind (h.visitChildren hvisit arguments) fun _ => hnext

theorem Visits.sound (hvisit : Visits related visit) :
    SoundVisit unit (fun _ => related) visit :=
  fun _ site walk => Run.visit (hvisit site walk)

theorem step (h : Conserves unit related) (hvisit : Visits related visit) (site : Site) :
    Walker.Keeps related (Walker.step unit visit site) :=
  h.of_whole (Runs.step hvisit.sound)

/-- By induction on the number of levels, every visit keeps a relation that meeting the limit of
levels keeps, too. -/
theorem visits (h : Conserves unit related)
    (hdeep : ∀ site, Walker.Keeps related (Walker.markTooDeep site)) (levels : Nat) :
    Visits related (Walker.visit unit levels) := by
  induction levels with
  | zero =>
      intro site
      exact h.bind (hdeep site) fun _ => h.pure _
  | succ levels ih =>
      intro site
      apply bind_get
      intro walk
      split
      · exact h.pure _
      · exact h.step ih site

end Walk.Conserves

/-!
# What surrounds the current node

A walk comes back from a node with the same types around it, the same type parameters in scope and
as silent as before, and no reference is taken back.
-/

/-- The second state has the surroundings of the first one and all its references. -/
structure Walk.Onward (first second : Walk) : Prop where
  enclosing : second.enclosing = first.enclosing
  typeParameters : second.blocks.map (·.typeParameters) = first.blocks.map (·.typeParameters)
  muted : second.muted = first.muted
  references : first.references.toList <+: second.references.toList
  tooDeep : second.tooDeep = none → first.tooDeep = none

namespace Walk

variable {first second third : Walk}

theorem declareTypeParameters_run (walk : Walk) (block : Block) (parameters : TypeParameters) :
    ((parameters.forM fun entry : String × SymbolId =>
        Walker.declareTypeParameter entry.1 entry.2).run
      { walk with blocks := block :: walk.blocks }).2 =
      { walk with
        blocks := { block with typeParameters := parameters.reverse ++ block.typeParameters } ::
          walk.blocks } := by
  induction parameters generalizing block with
  | nil => rfl
  | cons entry rest ih =>
      rw [List.reverse_cons, List.append_assoc]
      exact ih { block with typeParameters := entry :: block.typeParameters }

theorem openTypeParameters_run {unit : WalkedUnit} (walk : Walk) {site : Site}
    {member : MemberDecl}
    (hmember : (unit.decls.sites[site.path]?.bind fun id => unit.decls.members[id]?) =
      some member) :
    ((Walker.openTypeParameters unit site).run { walk with blocks := {} :: walk.blocks }).2 =
      { walk with
        blocks := { typeParameters := member.typeParameters.reverse } :: walk.blocks } := by
  rw [Walker.openTypeParameters, hmember, ← List.append_nil member.typeParameters.reverse]
  exact declareTypeParameters_run walk {} member.typeParameters

namespace Onward

theorem refl (walk : Walk) : walk.Onward walk :=
  ⟨rfl, rfl, rfl, List.prefix_refl _, id⟩

theorem trans (h : first.Onward second) (h' : second.Onward third) : first.Onward third where
  enclosing := h'.enclosing.trans h.enclosing
  typeParameters := h'.typeParameters.trans h.typeParameters
  muted := h'.muted.trans h.muted
  references := h.references.trans h'.references
  tooDeep := fun hthird => h.tooDeep (h'.tooDeep hthird)

theorem view_eq (h : first.Onward second) (unit : Nat) : second.view unit = first.view unit := by
  have hparameters : second.typeParameters = first.typeParameters := by
    unfold Walk.typeParameters
    rw [List.flatMap_def, List.flatMap_def, h.typeParameters]
  unfold Walk.view Walk.enclosingTypes
  rw [h.enclosing, hparameters]

theorem close {unit : WalkedUnit} {opened : Walk} (hopens : first.OpensBlock unit opened)
    (h : opened.Onward second) : first.Onward { second with blocks := second.blocks.tail } := by
  rcases hopens.eq with ⟨block, table, rfl⟩
  refine { h with typeParameters := ?_ }
  change second.blocks.tail.map _ = _
  rw [List.map_tail, h.typeParameters]
  rfl

theorem modifyBlock (walk : Walk) {change : Block → Block}
    (hchange : ∀ block, (change block).typeParameters = block.typeParameters) :
    walk.Onward (walk.modifyBlock change) := by
  unfold Walk.modifyBlock
  split
  · exact refl walk
  · rename_i block rest hblocks
    refine ⟨rfl, ?_, rfl, List.prefix_refl _, id⟩
    rw [hblocks, List.map_cons, List.map_cons, hchange]

end Onward

/-- Every walk comes back to the surroundings that it started from. -/
theorem conserves_onward (unit : WalkedUnit) : Conserves unit Onward where
  refl := Onward.refl
  trans := Onward.trans
  report := by
    intro walk site shape name target inImport
    change walk.Onward (if walk.muted > 0 then walk else _)
    split
    · exact Onward.refl walk
    · refine ⟨rfl, rfl, rfl, ?_, id⟩
      rw [Array.toList_push]
      exact List.prefix_append _ _
  declare := by
    intro walk nameSite kind type
    change walk.Onward (Walk.modifyBlock _ fun block =>
      { block with locals := _ :: block.locals })
    refine Onward.trans ?_ (Onward.modifyBlock _ fun _ => rfl)
    exact ⟨rfl, rfl, rfl, List.prefix_refl _, id⟩
  within := by
    intro first second around h
    refine ⟨?_, h.typeParameters, h.muted, h.references, h.tooDeep⟩
    change second.enclosing.tail = first.enclosing
    rw [h.enclosing]
    rfl
  inBlock := Onward.close
  underDeclaration := fun _ h => ⟨h.enclosing, h.typeParameters, h.muted, h.references, h.tooDeep⟩
  inSwitch := fun _ h => ⟨h.enclosing, h.typeParameters, h.muted, h.references, h.tooDeep⟩
  unheard := by
    intro first second h
    refine ⟨h.enclosing, h.typeParameters, ?_, h.references, h.tooDeep⟩
    change second.muted - 1 = first.muted
    rw [h.muted]
    rfl

theorem onward_markTooDeep (site : Site) : Walker.Keeps Onward (Walker.markTooDeep site) := by
  intro walk
  refine ⟨rfl, rfl, rfl, List.prefix_refl _, ?_⟩
  intro hdeep
  cases hwalk : walk.tooDeep with
  | none => rfl
  | some line =>
      change (walk.tooDeep <|> some site.line) = none at hdeep
      rw [hwalk] at hdeep
      cases hdeep

theorem onward_visits (unit : WalkedUnit) (levels : Nat) :
    Conserves.Visits Onward (Walker.visit unit levels) :=
  (conserves_onward unit).visits onward_markTooDeep levels

end Walk

end RestrictedApi
