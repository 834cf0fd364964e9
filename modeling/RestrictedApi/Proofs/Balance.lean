import RestrictedApi.Proofs.Conserved

/-!
# Walks are balanced

What a walk opens it closes again, also where it meets the limit of levels on the way, and what it
finds it only appends.  So after a node all stacks are as they were before it, except that names may
have been brought into the innermost block.  Every kind of change that runs are made of keeps this,
so it is conserved by every walk.

How deep a node stands is no part of the state: all that is walked below it has the same number of
levels left, whatever has been walked before.
-/

namespace RestrictedApi

/-- The second state has everything open that the first one has, and nothing else; it has all that
was found before, and the line of the limit if that had been met. -/
structure Walk.Balanced (first second : Walk) : Prop where
  enclosing : second.enclosing = first.enclosing
  suppressions : second.suppressions = first.suppressions
  switches : second.switches = first.switches
  muted : second.muted = first.muted
  openBlocks : second.blocks.length = first.blocks.length
  outerBlocks : second.blocks.tail = first.blocks.tail
  table : first.table.toList <+: second.table.toList
  references : first.references.toList <+: second.references.toList
  bindings : first.bindings.toList <+: second.bindings.toList
  tooDeep : ∀ line, first.tooDeep = some line → second.tooDeep = some line

namespace Walk.Balanced

variable {first second third : Walk}

theorem refl (walk : Walk) : walk.Balanced walk where
  enclosing := rfl
  suppressions := rfl
  switches := rfl
  muted := rfl
  openBlocks := rfl
  outerBlocks := rfl
  table := List.prefix_refl _
  references := List.prefix_refl _
  bindings := List.prefix_refl _
  tooDeep := fun _ hline => hline

theorem trans (h : first.Balanced second) (h' : second.Balanced third) : first.Balanced third where
  enclosing := h'.enclosing.trans h.enclosing
  suppressions := h'.suppressions.trans h.suppressions
  switches := h'.switches.trans h.switches
  muted := h'.muted.trans h.muted
  openBlocks := h'.openBlocks.trans h.openBlocks
  outerBlocks := h'.outerBlocks.trans h.outerBlocks
  table := h.table.trans h'.table
  references := h.references.trans h'.references
  bindings := h.bindings.trans h'.bindings
  tooDeep := fun line hline => h'.tooDeep line (h.tooDeep line hline)

/-!
# Opening and closing
-/

theorem closeDeclaration {warnings : List String}
    (h : Balanced { first with suppressions := warnings :: first.suppressions } second) :
    first.Balanced { second with suppressions := second.suppressions.tail } :=
  { h with suppressions := congrArg List.tail h.suppressions }

theorem closeType {around : Enclosing}
    (h : Balanced { first with enclosing := around :: first.enclosing } second) :
    first.Balanced { second with enclosing := second.enclosing.tail } :=
  { h with enclosing := congrArg List.tail h.enclosing }

theorem closeSwitch {selector : Option SymbolId}
    (h : Balanced { first with switches := selector :: first.switches } second) :
    first.Balanced { second with switches := second.switches.tail } :=
  { h with switches := congrArg List.tail h.switches }

theorem unmute (h : Balanced { first with muted := first.muted + 1 } second) :
    first.Balanced { second with muted := second.muted - 1 } :=
  { h with muted := congrArg (· - 1) h.muted }

/-!
# Appending
-/

theorem insertSymbol (walk : Walk) (symbol : Symbol) :
    walk.Balanced { walk with table := walk.table.insert symbol } :=
  { refl walk with
    table := by
      rw [SymbolTable.toList_insert]
      exact List.prefix_append _ _ }

theorem recordBinding (walk : Walk) (binding : Binding) :
    walk.Balanced { walk with bindings := walk.bindings.push binding } :=
  { refl walk with
    bindings := by
      rw [Array.toList_push]
      exact List.prefix_append _ _ }

theorem report (unit : WalkedUnit) (walk : Walk) (site : Site) (shape : UsageShape) (name : String)
    (target : Option SymbolId) (inImport : Bool) :
    walk.Balanced ((Walker.report unit site shape name target inImport).run walk).2 := by
  change walk.Balanced (if walk.muted > 0 then walk else _)
  split
  · exact refl walk
  · refine { refl walk with references := ?_ }
    rw [Array.toList_push]
    exact List.prefix_append _ _

theorem modifyBlock (walk : Walk) (change : Block → Block) :
    walk.Balanced (walk.modifyBlock change) := by
  unfold Walk.modifyBlock
  split
  · exact refl walk
  · rename_i block rest hblocks
    refine { refl walk with openBlocks := ?_, outerBlocks := ?_ }
    · rw [hblocks, List.length_cons, List.length_cons]
    · rw [hblocks, List.tail_cons, List.tail_cons]

theorem declare (unit : WalkedUnit) (walk : Walk) (nameSite : Site) (kind : SymbolKind)
    (type : Option SymbolId) :
    walk.Balanced ((Walker.declare unit (some nameSite) kind type).run walk).2 :=
  ((insertSymbol walk _).trans (recordBinding _ _)).trans (modifyBlock _ _)

theorem declareLocalTypeParameter (unit : WalkedUnit) (walk : Walk) (name : String) :
    walk.Balanced ((Walker.declareLocalTypeParameter unit name).run walk).2 :=
  (insertSymbol walk _).trans (modifyBlock _ _)

/-!
# Blocks
-/

theorem ofOpensBlock {unit : WalkedUnit} {opened : Walk} (h : first.OpensBlock unit opened) :
    Balanced { first with blocks := {} :: first.blocks } opened := by
  induction h with
  | empty => exact refl _
  | typeParameter _ _ _ ih => exact ih.trans (modifyBlock _ _)
  | localTypeParameter name _ ih => exact ih.trans (declareLocalTypeParameter unit _ name)

/-- The blocks that were open before are all outside of the one that is closed. -/
theorem closeBlock {unit : WalkedUnit} {opened : Walk} (hopens : first.OpensBlock unit opened)
    (h : opened.Balanced second) : first.Balanced { second with blocks := second.blocks.tail } :=
  have hblock := (ofOpensBlock hopens).trans h
  { hblock with
    openBlocks := congrArg List.length hblock.outerBlocks
    outerBlocks := congrArg List.tail hblock.outerBlocks }

end Walk.Balanced

theorem Walk.conserves_balanced (unit : WalkedUnit) : Walk.Conserves unit Walk.Balanced where
  refl := Walk.Balanced.refl
  trans := Walk.Balanced.trans
  report := Walk.Balanced.report unit
  declare := Walk.Balanced.declare unit
  within := fun _ h => h.closeType
  inBlock := Walk.Balanced.closeBlock
  underDeclaration := fun _ h => h.closeDeclaration
  inSwitch := fun _ h => h.closeSwitch
  unheard := fun h => h.unmute

theorem Walk.balanced_markTooDeep (site : Site) :
    Walker.Keeps Walk.Balanced (Walker.markTooDeep site) := by
  intro walk
  refine { Walk.Balanced.refl walk with tooDeep := ?_ }
  intro line hline
  change (walk.tooDeep <|> some site.line) = some line
  rw [hline]
  rfl

/-- From whichever state a node is visited, with however many levels left: all that is open stays
open and nothing else, only the innermost block may have got names, and the symbols and references
that were there before are still the first ones. -/
theorem Walker.visit_balanced (unit : WalkedUnit) (levels : Nat) (site : Site) (walk : Walk) :
    walk.Balanced ((Walker.visit unit levels site).run walk).2 :=
  (Walk.conserves_balanced unit).visits Walk.balanced_markTooDeep levels site walk

end RestrictedApi
