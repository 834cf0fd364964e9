import Mathlib.Data.List.Forall2
import RestrictedApi.Proofs.Independence
import RestrictedApi.Proofs.Resolution
import RestrictedApi.Proofs.Scopes

/-!
# Locals stay in their scope

A walk keeps the locals of open blocks on a stack.  The invariant of tours is that the stack agrees
with the scopes around the current site: a block knows only locals that were declared in its scope.
So a reference to a local is in the scope of the local.  If every call has a name, no block is
opened twice; then a block knows all the locals of its scope so far, and of those of one name the
latest, so that no local declared in between hides the one that is referred to.
-/

namespace RestrictedApi

/-!
# Bindings
-/

namespace Binding

def steps (binding : Binding) : List Nat :=
  binding.path.dropLast.reverse

def scope (root : Site) (binding : Binding) : Option Path :=
  root.innermostScope binding.steps

/-- A binding is at a declared name. -/
structure DeclaredAt (root : Site) (above : List Site) (holder nameSite : Site)
    (binding : Binding) : Prop where
  leads : root.Leads above holder
  mem : nameSite ∈ holder.declaredNames
  path : binding.path = nameSite.path
  name : binding.name = nameSite.text

variable {root holder nameSite : Site} {above : List Site} {binding : Binding} {number : Nat}

theorem DeclaredAt.ancestors (hroot : root.path = [number])
    (h : binding.DeclaredAt root above holder nameSite) :
    root.ancestors binding.steps = above ++ [holder] := by
  rcases h.leads.reached with ⟨steps, hholder, habove⟩
  rcases List.mem_iff_getElem?.mp (Site.mem_children_of_mem_declaredNames h.mem) with ⟨i, hi⟩
  have hname : root.descend? (steps ++ [i]) = some nameSite := by
    rw [Site.descend?_concat hholder, hi]
  rw [Binding.steps, h.path, Site.steps_of_descend? hroot hname, Site.ancestors_concat hholder,
    habove]

theorem DeclaredAt.scope_eq (hroot : root.path = [number])
    (h : binding.DeclaredAt root above holder nameSite) {scope : Option Path}
    {outer : List (Option Path)} (hscopes : Site.scopes (above ++ [holder]) = scope :: outer) :
    binding.scope root = scope := by
  rw [Binding.scope, Site.innermostScope, h.ancestors hroot]
  rw [Site.scopes] at hscopes
  generalize Site.openings none (above ++ [holder]) = opened at hscopes
  rcases List.eq_nil_or_concat opened with rfl | ⟨before, last, rfl⟩
  · exact (List.cons.inj hscopes).1
  · rw [List.concat_eq_append, List.map_append, List.reverse_append] at hscopes
    rw [List.concat_eq_append, List.getLast?_concat]
    exact (List.cons.inj hscopes).1

theorem DeclaredAt.suffix_of_scope (hroot : root.path = [number])
    (h : binding.DeclaredAt root above holder nameSite) {path : Path}
    (hscope : binding.scope root = some path) : path <:+ binding.path := by
  rw [Binding.scope, Site.innermostScope, h.ancestors hroot] at hscope
  rcases Option.map_eq_some_iff.mp hscope with ⟨opened, hlast, rfl⟩
  have hmem := (Site.sublist_openings none _).mem (List.mem_of_getLast? hlast)
  rcases Site.path_of_mem_children (Site.mem_children_of_mem_declaredNames h.mem) with ⟨i, _, hpath⟩
  rw [h.path, hpath]
  rcases List.mem_append.mp hmem with habove | hholder
  · rcases h.leads.suffix_of_mem habove with ⟨j, hsuffix⟩
    exact ((List.suffix_cons j _).trans hsuffix).trans (List.suffix_cons i _)
  · rw [List.mem_singleton.mp hholder]
    exact List.suffix_cons i _

theorem DeclaredAt.root_mem_ancestors (hroot : root.path = [number])
    (h : binding.DeclaredAt root above holder nameSite) : root ∈ root.ancestors binding.steps := by
  rw [h.ancestors hroot]
  exact h.leads.root_mem

def latest (root : Site) (log : List Binding) (scope : Option Path) (name : String) :
    Option Binding :=
  log.reverse.find? fun binding => binding.scope root = scope && binding.name = name

theorem latest_concat (log : List Binding) (scope : Option Path) (name : String) :
    latest root (log ++ [binding]) scope name =
      if binding.scope root = scope ∧ binding.name = name then some binding
      else latest root log scope name := by
  rw [latest, List.reverse_append, List.reverse_singleton, List.singleton_append, List.find?_cons]
  by_cases hfits : binding.scope root = scope ∧ binding.name = name
  · simp [hfits]
  · rw [if_neg hfits, show (decide (binding.scope root = scope) && decide (binding.name = name)) =
      false by simpa using hfits]
    rfl

theorem latest_eq_none {log : List Binding} {scope : Option Path} {name : String}
    (hlatest : latest root log scope name = none) (hmem : binding ∈ log)
    (hname : binding.name = name) : binding.scope root ≠ scope := by
  have hfits := List.find?_eq_none.mp hlatest binding (List.mem_reverse.mpr hmem)
  simpa [hname] using hfits

theorem latest_eq_some {log : List Binding} {scope : Option Path} {name : String}
    (hlog : log.Pairwise fun earlier later => earlier.symbol < later.symbol)
    (hlatest : latest root log scope name = some binding) {other : Binding} (hother : other ∈ log)
    (hlater : binding.symbol < other.symbol) (hname : other.name = name) :
    other.scope root ≠ scope := by
  rcases List.find?_eq_some_iff_append.mp hlatest with ⟨_, later, before, hsplit, hothers⟩
  have hsplit' : log = before.reverse ++ binding :: later.reverse := by
    rw [← List.reverse_reverse log, hsplit]
    simp
  intro hscope
  rw [hsplit'] at hlog hother
  rcases List.pairwise_append.mp hlog with ⟨_, _, hbefore⟩
  rcases List.mem_append.mp hother with hfirst | hrest
  · exact Nat.lt_asymm hlater (hbefore other hfirst binding List.mem_cons_self)
  · rcases List.mem_cons.mp hrest with rfl | hlast
    · exact Nat.lt_irrefl _ hlater
    · simpa [hname, hscope] using hothers other (List.mem_reverse.mp hlast)

end Binding

/-!
# Blocks
-/

/-- What a block knows are bindings in its scope and, if calls have names, the latest ones. -/
structure Block.Holds (shape : Shape) (root : Site) (table : SymbolTable) (log : List Binding)
    (scope : Option Path) (block : Block) : Prop where
  known : ∀ name found, block.locals.lookup name = some found →
    ∃ binding, binding ∈ log ∧ binding.scope root = scope ∧ binding.name = name ∧
      binding.symbol = found.symbol
  latest : shape ≠ .loose → ∀ name, (block.locals.lookup name).map Local.symbol =
    (Binding.latest root log scope name).map Binding.symbol
  typeParameters : TypeParameters.Sound table block.typeParameters

namespace Block.Holds

variable {shape : Shape} {root : Site} {table : SymbolTable} {log : List Binding}
variable {scope : Option Path} {block : Block} {binding : Binding} {scopes : List (Option Path)}
variable {blocks : List Block}

theorem extend {larger : SymbolTable} (h : block.Holds shape root table log scope)
    (hextends : table.Extends larger) : block.Holds shape root larger log scope :=
  { h with typeParameters := h.typeParameters.extend hextends }

theorem empty (hscope : shape ≠ .loose → ∀ binding, binding ∈ log → binding.scope root ≠ scope) :
    Block.Holds shape root table log scope {} where
  known := fun _ _ hfound => by cases hfound
  latest := by
    intro hshape name
    have hnone : Binding.latest root log scope name = none := by
      apply List.find?_eq_none.mpr
      intro binding hbinding
      simp [hscope hshape binding (List.mem_reverse.mp hbinding)]
    rw [hnone]
    rfl
  typeParameters := Declarations.Sound.noParameters

theorem other (h : block.Holds shape root table log scope) (hscope : binding.scope root ≠ scope) :
    block.Holds shape root table (log ++ [binding]) scope where
  known := by
    intro name found hfound
    rcases h.known name found hfound with ⟨known, hmem, hknown⟩
    exact ⟨known, List.mem_append_left _ hmem, hknown⟩
  latest := by
    intro hshape name
    rw [Binding.latest_concat, if_neg fun hfits => hscope hfits.1]
    exact h.latest hshape name
  typeParameters := h.typeParameters

theorem declare (h : block.Holds shape root table log scope) (hscope : binding.scope root = scope)
    (type : Option SymbolId) :
    Block.Holds shape root table (log ++ [binding]) scope
      { block with locals := (binding.name, ⟨binding.symbol, type⟩) :: block.locals } where
  known := by
    intro name found hfound
    by_cases hname : binding.name = name
    · rw [List.lookup_cons, beq_iff_eq.mpr hname.symm] at hfound
      cases hfound
      exact ⟨binding, List.mem_append_right log (List.mem_singleton_self binding), hscope, hname,
        rfl⟩
    · rw [List.lookup_cons, beq_eq_false_iff_ne.mpr (Ne.symm hname)] at hfound
      rcases h.known name found hfound with ⟨known, hmem, hknown⟩
      exact ⟨known, List.mem_append_left _ hmem, hknown⟩
  latest := by
    intro hshape name
    rw [Binding.latest_concat, List.lookup_cons]
    by_cases hname : binding.name = name
    · simp [hscope, hname]
    · rw [if_neg fun hfits => hname hfits.2, beq_eq_false_iff_ne.mpr (Ne.symm hname)]
      exact h.latest hshape name
  typeParameters := h.typeParameters

theorem others (h : List.Forall₂ (Block.Holds shape root table log) scopes blocks)
    (hscope : binding.scope root ∉ scopes) :
    List.Forall₂ (Block.Holds shape root table (log ++ [binding])) scopes blocks := by
  induction h with
  | nil => exact List.Forall₂.nil
  | cons hblock _ ih =>
      rw [List.mem_cons, not_or] at hscope
      exact List.Forall₂.cons (hblock.other hscope.1) (ih hscope.2)

theorem exists_of_findSome (hlog : log.Pairwise fun earlier later => earlier.symbol < later.symbol)
    (h : List.Forall₂ (Block.Holds shape root table log) scopes blocks) {name : String}
    {found : Local}
    (hfound : blocks.findSome? (fun block => block.locals.lookup name) = some found) :
    ∃ inner outer binding, scopes = inner ++ binding.scope root :: outer ∧ binding ∈ log ∧
      binding.symbol = found.symbol ∧ binding.name = name ∧
      (shape ≠ .loose → ∀ other, other ∈ log → binding.symbol < other.symbol →
        other.name = name → other.scope root ∉ inner ++ [binding.scope root]) := by
  induction h with
  | nil => cases hfound
  | @cons scope block scopes blocks hblock _ ih =>
      rw [List.findSome?_cons] at hfound
      cases hlookup : block.locals.lookup name with
      | some here =>
          rw [hlookup] at hfound
          cases hfound
          rcases hblock.known name found hlookup with ⟨binding, hmem, hscope, hname, hsymbol⟩
          refine ⟨[], scopes, binding, ?_, hmem, hsymbol, hname, ?_⟩
          · rw [hscope]
            rfl
          · intro hshape other hother hlater hsame hin
            have hlatest := hblock.latest hshape name
            rw [hlookup] at hlatest
            rcases Option.map_eq_some_iff.mp hlatest.symm with ⟨last, hlast, hequal⟩
            rw [List.nil_append, List.mem_singleton, hscope] at hin
            rw [hsymbol, ← hequal] at hlater
            exact Binding.latest_eq_some hlog hlast hother hlater hsame hin
      | none =>
          rw [hlookup] at hfound
          rcases ih hfound with ⟨inner, outer, binding, hscopes, hmem, hsymbol, hname, hothers⟩
          refine ⟨scope :: inner, outer, binding, ?_, hmem, hsymbol, hname, ?_⟩
          · rw [hscopes]
            rfl
          · intro hshape other hother hlater hsame hin
            have hlatest := hblock.latest hshape name
            rw [hlookup] at hlatest
            have hnone := Option.map_eq_none_iff.mp hlatest.symm
            rcases List.mem_cons.mp hin with heq | hrest
            · exact Binding.latest_eq_none hnone hother hsame heq
            · exact hothers hshape other hother hlater hsame hrest

end Block.Holds

/-!
# The invariant
-/

/-- If a reference is to one of the bindings, that was made before it in a scope around it.  If
calls have names, none of the same name was made in between in that scope or one inside it. -/
def Reference.Bound (shape : Shape) (root : Site) (log : List Binding) (index : Nat)
    (reference : Reference) : Prop :=
  ∀ binding, binding ∈ log → reference.usage.target = some binding.symbol →
    binding.name = reference.usage.name ∧ binding.earlier ≤ index ∧
      root ∈ root.ancestors reference.steps ∧
      ∃ inner outer,
        Site.scopes (root.ancestors reference.steps) = inner ++ binding.scope root :: outer ∧
        (shape ≠ .loose → ∀ other, other ∈ log → binding.symbol < other.symbol →
          other.name = binding.name → other.earlier ≤ index →
          other.scope root ∉ inner ++ [binding.scope root])

/-- The state of a walk agrees with the scopes around a site that has some sites above; the symbols
of the walk are numbered from `start` on. -/
structure Walk.Scoped (shape : Shape) (decls : Declarations) (start : Nat) (root : Site)
    (above : List Site) (walk : Walk) : Prop where
  decls : decls.Sound False walk.table
  start_le : start ≤ walk.table.size
  symbols : ∀ binding, binding ∈ walk.bindings.toList → start ≤ binding.symbol ∧
    walk.table.Declares binding.symbol (·.isLocal = true) binding.name
  logged : ∀ id symbol, start ≤ id → walk.table.get? id = some symbol →
    symbol.kind.isLocal = true → ∃ binding, binding ∈ walk.bindings.toList ∧ binding.symbol = id
  increasing : walk.bindings.toList.Pairwise fun earlier later => earlier.symbol < later.symbol
  declared : ∀ binding, binding ∈ walk.bindings.toList → ∃ before holder nameSite,
    binding.DeclaredAt root before holder nameSite
  earlier : ∀ binding, binding ∈ walk.bindings.toList → binding.earlier ≤ walk.references.size
  blocks : List.Forall₂ (Block.Holds shape root walk.table walk.bindings.toList) (Site.scopes above)
    walk.blocks
  targets : ∀ reference, reference ∈ walk.references.toList → ∀ id,
    reference.usage.target = some id → id < walk.table.size
  references : ∀ (index : Nat) (reference : Reference),
    walk.references.toList[index]? = some reference →
      reference.Bound shape root walk.bindings.toList index

theorem Reference.Bound.concat {shape : Shape} {root : Site} {log : List Binding} {index : Nat}
    {reference : Reference} {binding : Binding} (h : reference.Bound shape root log index)
    (htarget : reference.usage.target ≠ some binding.symbol) (hlate : index < binding.earlier) :
    reference.Bound shape root (log ++ [binding]) index := by
  intro found hfound hreference
  rcases List.mem_append.mp hfound with hold | hnew
  · rcases h found hold hreference with ⟨hname, hearlier, hbelow, inner, outer, hscopes, hothers⟩
    refine ⟨hname, hearlier, hbelow, inner, outer, hscopes, ?_⟩
    intro hshape other hother hlater hsame hseen
    rcases List.mem_append.mp hother with hold | hnew
    · exact hothers hshape other hold hlater hsame hseen
    · rw [List.mem_singleton.mp hnew] at hseen
      exact absurd hseen (Nat.not_le_of_lt hlate)
  · rw [List.mem_singleton.mp hnew] at hreference
    exact absurd hreference htarget

namespace Walk.Scoped

variable {shape : Shape} {decls : Declarations} {start number : Nat} {root site : Site}
variable {above : List Site} {walk other : Walk}

theorem congr (h : walk.Scoped shape decls start root above) (hsame : walk.SameScopes other) :
    other.Scoped shape decls start root above := by
  rcases walk with ⟨table, references, bindings, enclosing, blocks⟩
  rcases other with ⟨table', references', bindings', enclosing', blocks'⟩
  rcases hsame with ⟨rfl, rfl, rfl, rfl⟩
  exact { h with }

/-!
# Opening and closing blocks
-/

theorem enter (h : walk.Scoped shape decls start root above)
    (hopens : site.opensBlock above.getLast? = false) :
    walk.Scoped shape decls start root (above ++ [site]) :=
  { h with
    blocks := by
      rw [Site.scopes_concat_of_not_opensBlock hopens]
      exact h.blocks }

theorem leave (h : walk.Scoped shape decls start root (above ++ [site]))
    (hopens : site.opensBlock above.getLast? = false) :
    walk.Scoped shape decls start root above :=
  { h with
    blocks := by
      rw [← Site.scopes_concat_of_not_opensBlock hopens]
      exact h.blocks }

theorem openBlock (h : walk.Scoped shape decls start root above) (hroot : root.path = [number])
    (hopens : site.opensBlock above.getLast? = true)
    (hfresh : shape ≠ .loose →
      ∀ binding, binding ∈ walk.bindings.toList → ¬ site.path <:+ binding.path) :
    Walk.Scoped shape decls start root (above ++ [site])
      { walk with blocks := {} :: walk.blocks } :=
  { h with
    blocks := by
      rw [Site.scopes_concat_of_opensBlock hopens]
      refine List.Forall₂.cons (Block.Holds.empty fun hshape binding hbinding hscope => ?_) h.blocks
      rcases h.declared binding hbinding with ⟨before, holder, nameSite, hdeclared⟩
      exact hfresh hshape binding hbinding (hdeclared.suffix_of_scope hroot hscope) }

theorem closeBlock (h : walk.Scoped shape decls start root (above ++ [site]))
    (hopens : site.opensBlock above.getLast? = true) :
    Walk.Scoped shape decls start root above { walk with blocks := walk.blocks.tail } :=
  { h with
    blocks := by
      have hblocks := h.blocks
      rw [Site.scopes_concat_of_opensBlock hopens] at hblocks
      show List.Forall₂ (Block.Holds shape root walk.table walk.bindings.toList) _ walk.blocks.tail
      generalize walk.blocks = blocks at hblocks
      cases hblocks with
      | cons _ hrest => exact hrest }

/-!
# Bringing names into scope
-/

theorem insert (h : walk.Scoped shape decls start root above) {symbol : Symbol}
    (hkind : symbol.kind.isLocal = false) :
    Walk.Scoped shape decls start root above { walk with table := walk.table.insert symbol } :=
  have hextends := SymbolTable.Extends.insert walk.table symbol
  { h with
    decls := h.decls.extend hextends
    start_le := by
      rw [SymbolTable.size_insert]
      exact Nat.le_succ_of_le h.start_le
    symbols := fun binding hbinding =>
      ⟨(h.symbols binding hbinding).1, hextends.declares (h.symbols binding hbinding).2⟩
    logged := by
      intro id found hid hfound hlocal
      rw [SymbolTable.get?_insert] at hfound
      split at hfound
      · cases hfound
        rw [hkind] at hlocal
        cases hlocal
      · exact h.logged id found hid hfound hlocal
    blocks := h.blocks.imp fun _ _ hblock => hblock.extend hextends
    targets := fun reference hreference id htarget =>
      hextends.lt_size (h.targets reference hreference id htarget) }

theorem declareTypeParameter (h : walk.Scoped shape decls start root above) {name : String}
    {id : SymbolId} (hid : walk.table.Declares id (· = .typeParameter) name) :
    ((Walker.declareTypeParameter name id).run walk).2.Scoped shape decls start root above := by
  change (walk.modifyBlock _).Scoped shape decls start root above
  have hblocks := h.blocks
  unfold Walk.modifyBlock
  cases hstack : walk.blocks with
  | nil => exact h
  | cons block rest =>
      rw [hstack] at hblocks
      cases hscopes : Site.scopes above with
      | nil =>
          rw [hscopes] at hblocks
          cases hblocks
      | cons scope outer =>
          rw [hscopes] at hblocks
          rcases List.forall₂_cons.mp hblocks with ⟨hblock, hrest⟩
          refine { h with blocks := ?_ }
          rw [hscopes]
          refine List.Forall₂.cons { hblock with typeParameters := ?_ } hrest
          intro other found hmem
          rcases List.mem_cons.mp hmem with heq | hold
          · cases heq
            exact hid
          · exact hblock.typeParameters other found hold

theorem declareLocalTypeParameter (h : walk.Scoped shape decls start root above) (unit : WalkedUnit)
    (name : String) :
    ((Walker.declareLocalTypeParameter unit name).run walk).2.Scoped shape decls start root above :=
  (h.insert rfl).declareTypeParameter (walk.table.declares_insert _)

theorem bind (h : walk.Scoped shape decls start root above) (hroot : root.path = [number])
    {before : List Site} {holder nameSite : Site} {binding : Binding}
    (hdeclared : binding.DeclaredAt root before holder nameSite)
    (habove : above = before ++ [holder]) (hsymbol : binding.symbol = walk.table.size)
    (hearlier : binding.earlier = walk.references.size) {symbol : Symbol}
    (hkind : symbol.kind.isLocal = true) (hname : symbol.name = binding.name) {block : Block}
    {rest : List Block} (hstack : walk.blocks = block :: rest) (type : Option SymbolId) :
    Walk.Scoped shape decls start root above
      { walk with
        table := walk.table.insert symbol
        bindings := walk.bindings.push binding
        blocks :=
          { block with
            locals := (binding.name, ⟨binding.symbol, type⟩) :: block.locals } :: rest } := by
  have hextends := SymbolTable.Extends.insert walk.table symbol
  have hbefore : ∀ other, other ∈ walk.bindings.toList → other.symbol < binding.symbol := by
    intro other hother
    rw [hsymbol]
    exact (h.symbols other hother).2.lt_size
  have hmem : ∀ {other}, other ∈ (walk.bindings.push binding).toList →
      other ∈ walk.bindings.toList ∨ other = binding := by
    intro other hother
    rw [Array.toList_push] at hother
    exact (List.mem_append.mp hother).imp_right List.mem_singleton.mp
  refine
    { decls := h.decls.extend hextends
      start_le := ?_
      symbols := ?_
      logged := ?_
      increasing := ?_
      declared := ?_
      earlier := ?_
      blocks := ?_
      targets := ?_
      references := ?_ }
  · rw [SymbolTable.size_insert]
    exact Nat.le_succ_of_le h.start_le
  · intro other hother
    rcases hmem hother with hold | rfl
    · exact ⟨(h.symbols other hold).1, hextends.declares (h.symbols other hold).2⟩
    · rw [hsymbol, ← hname]
      refine ⟨h.start_le, (walk.table.declares_insert symbol).imp fun kind hsame => ?_⟩
      rw [hsame]
      exact hkind
  · intro id found hid hfound hlocal
    rw [SymbolTable.get?_insert] at hfound
    split at hfound
    · rename_i hlast
      exact ⟨binding, by simp, hsymbol.trans hlast.symm⟩
    · rcases h.logged id found hid hfound hlocal with ⟨other, hother, hsame⟩
      exact ⟨other, by simp [Array.mem_toList_iff.mp hother], hsame⟩
  · rw [Array.toList_push]
    refine List.pairwise_append.mpr ⟨h.increasing, List.pairwise_singleton _ _, ?_⟩
    intro other hother last hlast
    rw [List.mem_singleton.mp hlast]
    exact hbefore other hother
  · intro other hother
    rcases hmem hother with hold | rfl
    · exact h.declared other hold
    · exact ⟨before, holder, nameSite, hdeclared⟩
  · intro other hother
    rcases hmem hother with hold | rfl
    · exact h.earlier other hold
    · exact Nat.le_of_eq hearlier
  · -- The binding is in the innermost scope, and that is none of the outer ones.
    have hblocks := h.blocks.imp fun _ _ hblock => hblock.extend hextends
    rcases Site.exists_scopes_eq_cons above with ⟨scope, outer, hscopes⟩
    have hscope : binding.scope root = scope := hdeclared.scope_eq hroot (habove ▸ hscopes)
    have hapart := root.pairwise_scopes binding.steps
    rw [hdeclared.ancestors hroot, ← habove, hscopes, List.pairwise_cons] at hapart
    rw [hscopes, hstack] at hblocks
    rcases List.forall₂_cons.mp hblocks with ⟨hblock, hrest⟩
    rw [hscopes, Array.toList_push]
    refine List.Forall₂.cons (hblock.declare hscope type) (Block.Holds.others hrest ?_)
    rw [hscope]
    exact fun hmem => (hapart.1 scope hmem).ne rfl
  · intro reference hreference id htarget
    exact hextends.lt_size (h.targets reference hreference id htarget)
  · intro index reference hreference
    rw [Array.toList_push]
    apply (h.references index reference hreference).concat
    · intro htarget
      have hlt := h.targets reference (List.mem_of_getElem? hreference) _ htarget
      rw [hsymbol] at hlt
      exact Nat.lt_irrefl _ hlt
    · rw [hearlier]
      exact (List.getElem?_eq_some_iff.mp hreference).1

theorem run_declare (unit : WalkedUnit) (nameSite : Site) (kind : SymbolKind)
    (type : Option SymbolId) {block : Block} {rest : List Block}
    (hstack : walk.blocks = block :: rest) :
    ((Walker.declare unit (some nameSite) kind type).run walk).2 =
      { walk with
        table := walk.table.insert {
          name := nameSite.text, qualifiedName := nameSite.text, package := unit.package, kind
          owner := walk.thisType? }
        bindings := walk.bindings.push {
          path := nameSite.path, name := nameSite.text, symbol := walk.table.size
          earlier := walk.references.size }
        blocks :=
          { block with
            locals := (nameSite.text, ⟨walk.table.size, type⟩) :: block.locals } :: rest } := by
  change Walk.modifyBlock _ _ = _
  unfold Walk.modifyBlock
  simp only [hstack]

theorem declare (h : walk.Scoped shape decls start root above) (hroot : root.path = [number])
    {before : List Site} {holder nameSite : Site} (hleads : root.Leads before holder)
    (habove : above = before ++ [holder]) (hname : nameSite ∈ holder.declaredNames)
    (unit : WalkedUnit) {kind : SymbolKind} (hkind : kind.isLocal = true)
    (type : Option SymbolId) :
    ((Walker.declare unit (some nameSite) kind type).run walk).2.Scoped shape decls start root
      above := by
  have hblocks := h.blocks
  rcases Site.exists_scopes_eq_cons above with ⟨scope, outer, hscopes⟩
  rw [hscopes] at hblocks
  cases hstack : walk.blocks with
  | nil =>
      rw [hstack] at hblocks
      cases hblocks
  | cons block rest =>
      rw [run_declare unit nameSite kind type hstack]
      exact h.bind hroot ⟨hleads, hname, rfl, rfl⟩ habove rfl rfl hkind rfl hstack type

/-!
# Reporting
-/

theorem typeParameters (h : walk.Scoped shape decls start root above) :
    TypeParameters.Sound walk.table walk.typeParameters := by
  intro name id hmem
  rcases List.mem_flatMap.mp hmem with ⟨block, hblock, hentry⟩
  have hblocks := h.blocks
  generalize Site.scopes above = scopes at hblocks
  generalize walk.blocks = blocks at hblocks hblock
  induction hblocks with
  | nil => cases hblock
  | cons hhead _ ih =>
      rcases List.mem_cons.mp hblock with rfl | hrest
      · exact hhead.typeParameters name id hentry
      · exact ih hrest

theorem target_lt (h : walk.Scoped shape decls start root above) {unit : WalkedUnit}
    (hdecls : unit.decls = decls) {parent : Option Node} {node : Node} {usage : UsageShape}
    {name : String} {id : SymbolId}
    (hresolved : Resolved unit parent node walk usage name (some id)) : id < walk.table.size := by
  rcases hresolved.local_or_declares (hdecls ▸ h.decls) h.typeParameters with
    ⟨found, hfound, hid⟩ | ⟨other, hdeclares⟩
  · rcases Block.Holds.exists_of_findSome h.increasing h.blocks hfound with
      ⟨_, _, binding, _, hbinding, hsymbol, _⟩
    rw [← hid, ← hsymbol]
    exact (h.symbols binding hbinding).2.lt_size
  · exact hdeclares.lt_size

theorem bound (h : walk.Scoped shape decls start root above) (hroot : root.path = [number])
    {unit : WalkedUnit} (hdecls : unit.decls = decls) (hleads : root.Leads above site)
    (hstart : above = [] → walk.bindings = #[])
    {parent : Option Node} {reference : Reference} (hpath : reference.path = site.path)
    (hresolved : Resolved unit parent site.node walk reference.usage.shape reference.usage.name
      reference.usage.target) :
    reference.Bound shape root walk.bindings.toList walk.references.size := by
  have habove : root.ancestors reference.steps = above := by
    rcases hleads.reached with ⟨steps, hsite, habove⟩
    rw [Reference.steps, hpath, Site.steps_of_descend? hroot hsite, habove]
  intro binding hbinding htarget
  rw [htarget] at hresolved
  have hlocal : ∃ found, walk.local? reference.usage.name = some found ∧
      found.symbol = binding.symbol := by
    rcases hresolved.local_or_declares (hdecls ▸ h.decls) h.typeParameters with
      hlocal | ⟨name, symbol, hsymbol, hkind, _⟩
    · exact hlocal
    · -- A target that is no local has a symbol of another kind than a binding.
      rcases (h.symbols binding hbinding).2 with ⟨other, hother, hlocal, _⟩
      rw [hsymbol] at hother
      cases hother
      rw [hkind] at hlocal
      cases hlocal
  rcases hlocal with ⟨found, hfound, hsymbol⟩
  rcases Block.Holds.exists_of_findSome h.increasing h.blocks hfound with
    ⟨inner, outer, latest, hscopes, hlatest, hsame, hname, hothers⟩
  have heq : latest = binding := by
    have hapart : (walk.bindings.toList.map Binding.symbol).Nodup :=
      List.pairwise_map.mpr (h.increasing.imp Nat.ne_of_lt)
    exact List.inj_on_of_nodup_map hapart hlatest hbinding (hsame.trans hsymbol)
  rw [heq] at hscopes hname hothers
  refine ⟨hname, h.earlier binding hbinding, ?_, inner, outer, habove ▸ hscopes, ?_⟩
  · rw [habove]
    apply hleads.nil_or_root_mem.resolve_left
    intro hnil
    rw [hstart hnil] at hbinding
    cases hbinding
  · intro hshape other hother hlater hnames _
    exact hothers hshape other hother hlater (hnames.trans hname)

theorem report (h : walk.Scoped shape decls start root above) (hroot : root.path = [number])
    {unit : WalkedUnit} (hdecls : unit.decls = decls) (hleads : root.Leads above site)
    (hstart : above = [] → walk.bindings = #[])
    {parent : Option Node} {usage : UsageShape} {name : String} {target : Option SymbolId}
    (hresolved : Resolved unit parent site.node walk usage name target) (inImport : Bool) :
    ((Walker.report unit site usage name target inImport).run walk).2.Scoped shape decls start root
      above := by
  change Walk.Scoped shape decls start root above (if walk.muted > 0 then walk else _)
  by_cases hmuted : walk.muted > 0
  · rw [if_pos hmuted]
    exact h
  · rw [if_neg hmuted]
    refine { h with earlier := ?_, targets := ?_, references := ?_ }
    · intro binding hbinding
      rw [Array.size_push]
      exact Nat.le_succ_of_le (h.earlier binding hbinding)
    · intro reference hreference id htarget
      rw [Array.toList_push] at hreference
      rcases List.mem_append.mp hreference with hold | hnew
      · exact h.targets reference hold id htarget
      · rw [List.mem_singleton.mp hnew] at htarget
        change target = some id at htarget
        rw [htarget] at hresolved
        exact h.target_lt hdecls hresolved
    · intro index reference hreference
      rw [Array.toList_push] at hreference
      by_cases hindex : index < walk.references.toList.length
      · rw [List.getElem?_append_left hindex] at hreference
        exact h.references index reference hreference
      · rw [List.getElem?_append_right (Nat.not_lt.mp hindex),
          List.getElem?_singleton] at hreference
        split at hreference
        · rename_i hlast
          have hsize : index = walk.references.size :=
            Nat.le_antisymm (Nat.sub_eq_zero_iff_le.mp hlast) (Nat.not_lt.mp hindex)
          cases hreference
          rw [hsize]
          exact h.bound hroot hdecls hleads hstart rfl hresolved
        · cases hreference

end Walk.Scoped

/-!
# Tours
-/

/-- The bindings of a walk are none of a stop that it has still to come to. -/
def Stop.Fresh (stop : Stop) (walk : Walk) : Prop :=
  ∀ binding, binding ∈ walk.bindings.toList → ¬ stop.Covers binding.path

theorem Stop.Fresh.congr {stop : Stop} {first second : Walk} (h : stop.Fresh first)
    (hsame : first.SameScopes second) : stop.Fresh second := by
  unfold Stop.Fresh
  rw [← hsame.bindings]
  exact h

/-- The second walk has further bindings, all of them at a stop. -/
def Stop.Binds (stop : Stop) (first second : Walk) : Prop :=
  ∃ added, second.bindings.toList = first.bindings.toList ++ added ∧
    ∀ binding, binding ∈ added → stop.Covers binding.path

theorem Stop.Binds.refl {stop : Stop} {first second : Walk}
    (heq : second.bindings = first.bindings) : stop.Binds first second :=
  ⟨[], by rw [heq, List.append_nil], fun _ hbinding => absurd hbinding List.not_mem_nil⟩

theorem Stop.Binds.report {stop : Stop} {unit : WalkedUnit} {site : Site} {usage : UsageShape}
    {name : String} {target : Option SymbolId} {inImport : Bool} {walk : Walk} :
    stop.Binds walk ((Walker.report unit site usage name target inImport).run walk).2 := by
  apply Stop.Binds.refl
  change (if walk.muted > 0 then walk else _).bindings = walk.bindings
  split <;> rfl

theorem Stop.Binds.mono {stop larger : Stop} {first second : Walk} (h : stop.Binds first second)
    (hlarger : ∀ path, stop.Covers path → larger.Covers path) : larger.Binds first second := by
  rcases h with ⟨added, heq, hadded⟩
  exact ⟨added, heq, fun binding hbinding => hlarger _ (hadded binding hbinding)⟩

/-- The invariant of tours: the open blocks agree with the scopes. -/
theorem Tour.keepsScoped {unit : WalkedUnit} {shape : Shape} {inImport : Bool} {stop : Stop}
    {first second : Walk} {root : Site} {above : List Site} {start number : Nat}
    (htour : Tour unit shape inImport stop first second) (hroot : root.path = [number])
    (hunder : stop.Under root above) (hapart : shape ≠ .loose → stop.Apart)
    (hfresh : shape ≠ .loose → stop.Fresh first) (hstart : above = [] → first.bindings = #[])
    (hfirst : first.Scoped shape unit.decls start root above) :
    second.Scoped shape unit.decls start root above ∧ stop.Binds first second := by
  induction htour generalizing above with
  | refl => exact ⟨hfirst, Stop.Binds.refl rfl⟩
  | trans _ _ ih ih' =>
      rename_i site parts more first second third _ _
      have hparts := fun hshape => List.nodup_append.mp (hapart hshape)
      rcases ih hunder (fun hshape => (hparts hshape).1) (fun hshape binding hbinding hcovers =>
        hfresh hshape binding hbinding hcovers.left) hstart hfirst with
        ⟨hsecond, added, heq, hadded⟩
      -- What the first parts bind is apart from the parts that are still to come.
      have hfresh' : shape ≠ .loose → (Stop.inside site more).Fresh second := by
        intro hshape binding hbinding hcovers
        rw [heq] at hbinding
        rcases List.mem_append.mp hbinding with hold | hnew
        · exact hfresh hshape binding hold hcovers.right
        · exact (hadded binding hnew).apart hcovers (hapart hshape)
      rcases ih' hunder (fun hshape => (hparts hshape).2.1) hfresh'
        (fun hnil => absurd hnil hunder.ne_nil) hsecond with ⟨hthird, further, heq', hfurther⟩
      refine ⟨hthird, added ++ further, ?_, ?_⟩
      · rw [heq', heq, List.append_assoc]
      · intro binding hbinding
        rcases List.mem_append.mp hbinding with hold | hnew
        · exact (hadded binding hold).left
        · exact (hfurther binding hnew).right
  | aside hopened _ hclosed ih =>
      rcases ih hunder hapart (fun hshape => (hfresh hshape).congr hopened)
        (fun hnil => hopened.bindings ▸ hstart hnil) (hfirst.congr hopened) with
        ⟨hsecond, added, heq, hadded⟩
      refine ⟨hsecond.congr hclosed, added, ?_, hadded⟩
      rw [← hclosed.bindings, hopened.bindings]
      exact heq
  | child hchild _ _ ih =>
      rename_i site child _ _ _ _
      have hcovers : ∀ path, (Stop.whole (some site) child).Covers path →
          (Stop.inside site [child]).Covers path :=
        fun path hpath => ⟨child, List.mem_singleton_self child, hchild, hpath⟩
      rcases ih (hunder.child hchild) (fun _ => trivial)
        (fun hshape binding hbinding hpath => hfresh hshape binding hbinding (hcovers _ hpath))
        hstart hfirst with ⟨hsecond, hbinds⟩
      exact ⟨hsecond, hbinds.mono hcovers⟩
  | enter hopens _ hparts _ ih | enterImport hopens _ hparts _ ih =>
      rw [← hunder.2] at hopens
      rcases ih hunder.enter hparts (fun hshape binding hbinding hpath =>
        hfresh hshape binding hbinding hpath.enter) (by simp) (hfirst.enter hopens) with
        ⟨hsecond, hbinds⟩
      exact ⟨hsecond.leave hopens, hbinds.mono fun path hpath => hpath.enter⟩
  | block hopens _ hparts _ ih =>
      -- Nothing is bound below a block that has not been entered: an empty block agrees with it.
      rw [← hunder.2] at hopens
      rcases ih hunder.enter hparts (fun hshape binding hbinding hpath =>
        hfresh hshape binding hbinding hpath.enter) (by simp)
        (hfirst.openBlock hroot hopens hfresh) with ⟨hsecond, hbinds⟩
      exact ⟨hsecond.closeBlock hopens, hbinds.mono fun path hpath => hpath.enter⟩
  | report hresolved _ =>
      exact ⟨hfirst.report hroot rfl hunder.1 hstart hresolved _, Stop.Binds.report⟩
  | remark _ hchild hresolved _ =>
      exact ⟨hfirst.report hroot rfl (hunder.child hchild).1 hstart hresolved _,
        Stop.Binds.report⟩
  | declare type hname hkind =>
      rename_i site nameSite walk kind
      rcases hunder with ⟨before, hleads, habove⟩
      refine ⟨hfirst.declare hroot hleads habove hname unit hkind type,
        [⟨nameSite.path, nameSite.text, walk.table.size, walk.references.size⟩], ?_, ?_⟩
      · change (Walk.modifyBlock _ _).bindings.toList = _
        rw [Walk.modifyBlock_bindings, ← Array.toList_push]
      · intro binding hbinding
        rw [List.mem_singleton.mp hbinding]
        exact ⟨nameSite, List.mem_singleton_self nameSite,
          Site.mem_children_of_mem_declaredNames hname, List.suffix_refl _⟩
  | typeParameter hmember hentry =>
      have hid := (hfirst.decls.members hmember).2.typeParameters _ _ hentry
      exact ⟨hfirst.declareTypeParameter hid, Stop.Binds.refl (Walk.modifyBlock_bindings _ _)⟩
  | localTypeParameter name =>
      exact ⟨hfirst.declareLocalTypeParameter unit name,
        Stop.Binds.refl (Walk.modifyBlock_bindings _ _)⟩

/-!
# Usages of a program
-/

/-- A reference is in the scope of a binding, which is of its name and logged before it. -/
structure Reference.InScope (root : Site) (index : Nat) (binding : Binding)
    (reference : Reference) : Prop where
  name : binding.name = reference.usage.name
  earlier : binding.earlier ≤ index
  inside : root.innermostBlock binding.steps ∈ root.ancestors reference.steps

/-- Of the bindings logged later than a binding, up to a reference, none of the same name is in a
scope around the reference that is within that of the binding. -/
def Reference.Unhidden (root : Site) (later : List Binding) (index : Nat) (binding : Binding)
    (reference : Reference) : Prop :=
  ∀ other, other ∈ later → other.name = binding.name → other.earlier ≤ index →
    root.innermostBlock other.steps ∈ root.ancestors reference.steps →
    ¬ (root.innermostBlock binding.steps).path <:+ (root.innermostBlock other.steps).path

namespace Walk.Scoped

variable {shape : Shape} {decls : Declarations} {start number index : Nat} {root : Site}
variable {above : List Site} {walk : Walk} {reference : Reference} {before later : List Binding}
variable {binding : Binding}

theorem inScope (h : walk.Scoped shape decls start root above)
    (hreference : walk.references.toList[index]? = some reference)
    (hbinding : binding ∈ walk.bindings.toList)
    (htarget : reference.usage.target = some binding.symbol) :
    reference.InScope root index binding := by
  rcases h.references index reference hreference binding hbinding htarget with
    ⟨hname, hearlier, hbelow, inner, outer, hscopes, _⟩
  refine ⟨hname, hearlier, Site.innermostBlock_mem_ancestors hbelow ?_⟩
  rw [hscopes]
  exact List.mem_append_right inner List.mem_cons_self

theorem unhidden (h : walk.Scoped shape decls start root above) (hshape : shape ≠ .loose)
    (hroot : root.path = [number])
    (hreference : walk.references.toList[index]? = some reference)
    (hsplit : walk.bindings.toList = before ++ binding :: later)
    (htarget : reference.usage.target = some binding.symbol) :
    reference.Unhidden root later index binding := by
  have hbinding : binding ∈ walk.bindings.toList := by
    rw [hsplit]
    exact List.mem_append_right before List.mem_cons_self
  rcases h.references index reference hreference binding hbinding htarget with
    ⟨_, _, _, inner, outer, hscopes, hothers⟩
  intro other hother hsame hseen hmem hsuffix
  have hlogged : other ∈ walk.bindings.toList := by
    rw [hsplit]
    exact List.mem_append_right before (List.mem_cons_of_mem binding hother)
  have hlater : binding.symbol < other.symbol := by
    have hincreasing := h.increasing
    rw [hsplit] at hincreasing
    exact (List.pairwise_cons.mp (List.pairwise_append.mp hincreasing).2.1).1 other hother
  -- The other scope is around the reference, but not up to that of the binding: it is beyond.
  have houter : other.scope root ∈ outer := by
    have hin := Site.innermostScope_mem_scopes hmem
    rw [hscopes, List.append_cons] at hin
    exact (List.mem_append.mp hin).resolve_left (hothers hshape other hlogged hlater hsame hseen)
  have hpairwise := root.pairwise_scopes reference.steps
  rw [hscopes] at hpairwise
  have hencloses := (List.pairwise_cons.mp (List.pairwise_append.mp hpairwise).2.1).1 _ houter
  rcases h.declared other hlogged with ⟨_, _, _, hdeclared⟩
  exact Site.not_encloses_of_suffix (hdeclared.root_mem_ancestors hroot) hsuffix hencloses

end Walk.Scoped

namespace Program

variable {program : Program} {number : Nat} {source : SourceUnit}

theorem scoped_walk {shape : Shape} (hsound : program.decls.Sound False program.table)
    (hroot : Site.Grammatical shape none ⟨[number], source.root⟩) :
    (program.walk number source).Scoped shape program.decls program.table.size
      ⟨[number], source.root⟩ [] := by
  have htour := (program.walkedUnit number source).tour_walk program.table hroot
  refine (htour.keepsScoped rfl ⟨Site.Leads.refl, rfl⟩ (fun _ => trivial)
    (fun _ binding hbinding => absurd hbinding List.not_mem_nil) (fun _ => rfl) ?_).1
  exact
    { decls := hsound
      start_le := Nat.le_refl _
      symbols := fun binding hbinding => absurd hbinding List.not_mem_nil
      logged := fun id symbol hid hsymbol =>
        absurd (SymbolTable.lt_size_iff.mpr ⟨symbol, hsymbol⟩) (Nat.not_lt.mpr hid)
      increasing := List.Pairwise.nil
      declared := fun binding hbinding => absurd hbinding List.not_mem_nil
      earlier := fun binding hbinding => absurd hbinding List.not_mem_nil
      blocks := List.Forall₂.cons (Block.Holds.empty fun _ binding hbinding =>
        absurd hbinding List.not_mem_nil) List.Forall₂.nil
      targets := fun reference hreference => absurd hreference List.not_mem_nil
      references := fun index reference hreference => by cases hreference }

theorem sound_after (units : List SourceUnit) (history : List Nat) :
    ((ofUnits units).after history).decls.Sound False ((ofUnits units).after history).table := by
  rw [decls_after]
  apply (sound_ofUnits False.elim).extend
  intro id symbol hsymbol
  refine ⟨symbol.annotations, ?_⟩
  rw [Restriction.get_of_appendsLocals ((ofUnits units).appendsLocals_after history)
    (SymbolTable.lt_size_iff.mpr ⟨symbol, hsymbol⟩)]
  exact hsymbol

/-- Locals stay in their scope.  The locals that an extraction adds are those of its log, each
declared at a name of the tree, and a usage of one is in its scope and not hidden by another one.
The shape of the tree matters: a class body in place of the type of a new object would be walked
twice, the first time as a type that opens no block.  What hides a local depends on the names of
calls, too: if a call has none, another call before its dot is walked twice, and the second time the
locals of the first are still in the log. -/
theorem usages_of_locals_in_scope (units : List SourceUnit) (history : List Nat) (number : Nat)
    (source : SourceUnit) (usages : List Usage) (hsource : units[number]? = some source)
    (hshape : source.root.everywhere Node.isWellPlaced none = true)
    (husages : (((ofUnits units).after history).usages number).1 = .ok usages) :
    let program := (ofUnits units).after history
    let walk := program.walk number source
    let root : Site := ⟨[number], source.root⟩
    usages = walk.references.toList.map Reference.usage ∧
      (∀ id symbol, program.table.size ≤ id → walk.table.get? id = some symbol →
        symbol.kind.isLocal = true →
        ∃ binding, binding ∈ walk.bindings.toList ∧ binding.symbol = id) ∧
      (∀ binding, binding ∈ walk.bindings.toList →
        program.table.size ≤ binding.symbol ∧
          ∃ steps holder nameSite, root.descend? steps = some holder ∧
            nameSite ∈ holder.declaredNames ∧ binding.path = nameSite.path ∧
            binding.name = nameSite.text) ∧
      ∀ (index : Nat) (reference : Reference) (before : List Binding) (binding : Binding)
        (later : List Binding), walk.references.toList[index]? = some reference →
        walk.bindings.toList = before ++ binding :: later →
        reference.usage.target = some binding.symbol →
        reference.InScope root index binding ∧
          (root.NamesCalls → reference.Unhidden root later index binding) := by
  intro program walk root
  have hscoped : walk.Scoped .loose program.decls program.table.size root [] :=
    scoped_walk (sound_after units history) (Site.grammatical_loose hshape)
  refine ⟨(map_usage_after hsource husages).symm, hscoped.logged, ?_, ?_⟩
  · intro binding hbinding
    rcases hscoped.declared binding hbinding with ⟨above, holder, nameSite, hdeclared⟩
    rcases hdeclared.leads.reached with ⟨steps, hholder, _⟩
    exact ⟨(hscoped.symbols binding hbinding).1, steps, holder, nameSite, hholder, hdeclared.mem,
      hdeclared.path, hdeclared.name⟩
  · intro index reference before binding later hreference hsplit htarget
    have hbinding : binding ∈ walk.bindings.toList := by
      rw [hsplit]
      exact List.mem_append_right before List.mem_cons_self
    refine ⟨hscoped.inScope hreference hbinding htarget, fun hcalls => ?_⟩
    have hnamed : walk.Scoped .named program.decls program.table.size root [] :=
      scoped_walk (sound_after units history) (Site.grammatical_named hshape hcalls)
    exact hnamed.unhidden (by decide) rfl hreference hsplit htarget

end Program

def shadowingBindings : List Binding :=
  [{ path := [1, 0, 2, 0, 1, 0, 0], name := "x", symbol := 3, earlier := 0 },
    { path := [0, 0, 1, 0, 0, 3, 0, 1, 0, 0], name := "x", symbol := 4, earlier := 1 }]

def shadowingReferences : List Reference :=
  List.zipWith Reference.mk
    [[0, 0, 0, 3, 0, 1, 0, 0], [1, 0, 1, 0, 0, 3, 0, 1, 0, 0], [1, 1, 0, 0, 3, 0, 1, 0, 0]]
    shadowingUsages

/-- After the lambda its parameter does not hide that of the method. -/
theorem shadowing_inScope :
    let program := (Program.ofUnits [shadowing]).after []
    let walk := program.walk 0 shadowing
    let root : Site := ⟨[0], shadowing.root⟩
    shadowing.root.everywhere Node.isWellPlaced none = true ∧ root.NamesCalls ∧
      (program.usages 0).1 = .ok shadowingUsages ∧
      walk.bindings.toList = shadowingBindings ∧ walk.references.toList = shadowingReferences ∧
      shadowingReferences[1].InScope root 1 shadowingBindings[1] ∧
      shadowingReferences[2].InScope root 2 shadowingBindings[0] ∧
      shadowingReferences[2].Unhidden root [shadowingBindings[1]] 2 shadowingBindings[0] := by
  have hshape : shadowing.root.everywhere Node.isWellPlaced none = true := by decide
  have hcalls : Site.NamesCalls ⟨[0], shadowing.root⟩ :=
    Site.namesCalls_of_isGrammatical (show shadowing.root.everywhere _ none = true by decide)
  have husages : (((Program.ofUnits [shadowing]).after []).usages 0).1 = .ok shadowingUsages :=
    (Program.usages_eq_ok_iff rfl).mpr ⟨by decide +kernel, by decide +kernel⟩
  have hbindings : (((Program.ofUnits [shadowing]).after []).walk 0 shadowing).bindings.toList =
      shadowingBindings := by decide +kernel
  have hreferences : (((Program.ofUnits [shadowing]).after []).walk 0 shadowing).references.toList =
      shadowingReferences := by decide +kernel
  have hscope := (Program.usages_of_locals_in_scope [shadowing] [] 0 shadowing _ rfl hshape
    husages).2.2.2
  rw [hbindings, hreferences] at hscope
  have hlambda := hscope 1 _ [shadowingBindings[0]] _ [] rfl rfl rfl
  have hmethod := hscope 2 _ [] _ [shadowingBindings[1]] rfl rfl rfl
  exact ⟨hshape, hcalls, husages, hbindings, hreferences, hlambda.1, hmethod.1, hmethod.2 hcalls⟩

end RestrictedApi
