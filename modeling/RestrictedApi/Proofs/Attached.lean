import RestrictedApi.Proofs.Independence
import RestrictedApi.Proofs.Recorded

/-!
# What linking leaves and what it adds

Linking keeps the records of packages, of declaring nodes and of the types around a type.  To the
symbols it adds exactly the annotations that wait for them, in order, under their dotted names.
-/

namespace RestrictedApi

/-!
# Records that linking keeps
-/

namespace Declarations

/-- The second records differ from the first at most in what linking fills in. -/
structure Links (first second : Declarations) : Prop where
  packages : second.packages = first.packages
  sites : second.sites = first.sites
  pending : second.pending = first.pending
  outer : ∀ id, second.outer? id = first.outer? id

theorem Links.trans {first second third : Declarations} (h : first.Links second)
    (h' : second.Links third) : first.Links third where
  packages := h'.packages.trans h.packages
  sites := h'.sites.trans h.sites
  pending := h'.pending.trans h.pending
  outer := fun id => (h'.outer id).trans (h.outer id)

theorem Links.refl (decls : Declarations) : decls.Links decls :=
  ⟨rfl, rfl, rfl, fun _ => rfl⟩

theorem links_linkType (decls : Declarations) (id : SymbolId) :
    decls.Links (decls.linkType id) := by
  unfold linkType
  split
  · exact Links.refl decls
  · refine ⟨rfl, rfl, rfl, fun other => ?_⟩
    apply outer_modifyType
    exact fun _ => rfl

theorem links_linkSupertypes (decls : Declarations) : decls.Links decls.linkSupertypes := by
  unfold linkSupertypes
  generalize decls.types.keys = ids
  induction ids generalizing decls with
  | nil => exact Links.refl decls
  | cons id rest ih => exact (decls.links_linkType id).trans (ih _)

theorem links_linkMembers (decls : Declarations) : decls.Links decls.linkMembers :=
  ⟨rfl, rfl, rfl, fun _ => rfl⟩

end Declarations

/-!
# What waits plays no role in looking up
-/

namespace Declarations

variable (decls : Declarations) (pending : Array PendingAnnotation)

def withPending : Declarations :=
  { decls with pending }

theorem addLevels_withPending (rounds : Nat) (found frontier : List SymbolId) :
    (decls.withPending pending).addLevels rounds found frontier =
      decls.addLevels rounds found frontier := by
  induction rounds generalizing found frontier with
  | zero => rfl
  | succ rounds ih =>
      rw [addLevels, addLevels]
      split
      · rfl
      · exact ih _ _

theorem memberType_withPending (id : SymbolId) (name : String) :
    (decls.withPending pending).memberType? id name = decls.memberType? id name := by
  unfold memberType? hierarchy
  rw [addLevels_withPending]
  rfl

theorem addOuter_withPending (rounds : Nat) (chain : List SymbolId) (current : Option SymbolId) :
    (decls.withPending pending).addOuter rounds chain current =
      decls.addOuter rounds chain current := by
  induction rounds generalizing chain current with
  | zero => cases current <;> rfl
  | succ rounds ih =>
      cases current with
      | none => rfl
      | some id =>
          rw [addOuter, addOuter]
          split
          · rfl
          · exact ih _ _

theorem simpleType_withPending (view : Viewpoint) (name : String) :
    (decls.withPending pending).simpleType? view name = decls.simpleType? view name := by
  unfold simpleType? enclosingMember? onDemandImport?
  simp only [memberType_withPending]
  rfl

theorem memberTypes_withPending (id : SymbolId) (name : DottedName) :
    (decls.withPending pending).memberTypes? id name = decls.memberTypes? id name := by
  induction name generalizing id with
  | nil => rfl
  | cons segment rest ih =>
      rw [memberTypes?, memberTypes?, memberType_withPending]
      exact congrArg _ (funext ih)

theorem annotationName_withPending (table : SymbolTable) (use : PendingAnnotation) :
    (decls.withPending pending).annotationName table use = decls.annotationName table use := by
  have hchain : (decls.withPending pending).enclosingChain = decls.enclosingChain :=
    funext fun _ => decls.addOuter_withPending pending _ _ _
  have htype : ∀ view name,
      (decls.withPending pending).typeOf? view name = decls.typeOf? view name := by
    intro view name
    cases name with
    | nil => rfl
    | cons first rest =>
        rw [typeOf?, typeOf?, simpleType_withPending]
        cases decls.simpleType? view first with
        | none => rfl
        | some id => exact decls.memberTypes_withPending pending id rest
  unfold annotationName
  rw [hchain]
  dsimp only
  rw [htype]
  rfl

end Declarations

/-!
# Attaching annotations
-/

def SymbolTable.SameNames (first second : SymbolTable) : Prop :=
  ∀ id, (first.get? id).map (·.qualifiedName) = (second.get? id).map (·.qualifiedName)

namespace Declarations

theorem annotationName_of_sameNames (decls : Declarations) {first second : SymbolTable}
    (h : first.SameNames second) (use : PendingAnnotation) :
    decls.annotationName first use = decls.annotationName second use := by
  unfold annotationName
  dsimp only
  generalize decls.typeOf? _ _ = found
  cases found with
  | none => rfl
  | some id =>
      have hid := h id
      rw [Option.bind_some, Option.bind_some]
      cases hfirst : first.get? id with
      | none =>
          rw [hfirst] at hid
          rw [Option.map_eq_none_iff.mp hid.symm]
      | some symbol =>
          rw [hfirst] at hid
          rcases Option.map_eq_some_iff.mp hid.symm with ⟨other, hother, hname⟩
          rw [hother]
          exact hname.symm

end Declarations

theorem SymbolTable.get?_annotate (table : SymbolTable) (target : SymbolId)
    (annotations : List String) (id : SymbolId) :
    (table.modify target (·.annotate annotations)).get? id =
      (table.get? id).map fun symbol =>
        if target = id then symbol.annotate annotations else symbol := by
  change (table.symbols.modify target _)[id]? = table.symbols[id]?.map _
  rw [Array.getElem?_modify]
  split
  · rfl
  · exact (Option.map_id' ..).symm

theorem Symbol.annotate_nil (symbol : Symbol) : symbol.annotate [] = symbol := by
  rw [annotate, List.append_nil]

theorem Symbol.annotate_append (symbol : Symbol) (first second : List String) :
    (symbol.annotate first).annotate second = symbol.annotate (first ++ second) := by
  rw [annotate, annotate, annotate, List.append_assoc]

namespace Collected

theorem sameNames_attach (decls : Declarations) (table : SymbolTable) (use : PendingAnnotation) :
    (attach decls table use).SameNames table := by
  intro id
  rw [attach, SymbolTable.get?_annotate, Option.map_map]
  congr 1
  funext symbol
  simp only [Function.comp_apply]
  split <;> rfl

theorem get?_foldl_attach (decls : Declarations) (uses : List PendingAnnotation)
    (table : SymbolTable) (id : SymbolId) :
    (uses.foldl (attach decls) table).get? id =
      (table.get? id).map fun symbol => symbol.annotate
        ((uses.filter fun use => use.target = id).map (decls.annotationName table)) := by
  induction uses generalizing table with
  | nil =>
      change table.get? id = (table.get? id).map fun symbol => symbol.annotate []
      simp only [Symbol.annotate_nil, Option.map_id']
  | cons use rest ih =>
      have hnames : decls.annotationName (attach decls table use) = decls.annotationName table :=
        funext (decls.annotationName_of_sameNames (sameNames_attach decls table use))
      rw [List.foldl_cons, ih, hnames, attach, SymbolTable.get?_annotate, Option.map_map]
      congr 1
      funext symbol
      simp only [Function.comp_apply, List.filter_cons]
      by_cases htarget : use.target = id
      · simp only [htarget, if_true, decide_true, List.map_cons, Symbol.annotate_append,
          List.singleton_append]
      · simp only [htarget, if_false, decide_false, Bool.false_eq_true]

theorem sameNames_foldl_attach (decls : Declarations) (uses : List PendingAnnotation)
    (table : SymbolTable) : (uses.foldl (attach decls) table).SameNames table := by
  intro id
  rw [get?_foldl_attach, Option.map_map]
  rfl

theorem links_link (collected : Collected) :
    collected.decls.Links collected.decls.linkSupertypes.linkSupertypes.linkMembers :=
  ((collected.decls.links_linkSupertypes).trans
    (Declarations.links_linkSupertypes _)).trans (Declarations.links_linkMembers _)

theorem sites_link (collected : Collected) :
    collected.link.decls.sites = collected.decls.sites := by
  unfold link
  dsimp only
  exact collected.links_link.sites

theorem outer_link (collected : Collected) (id : SymbolId) :
    collected.link.decls.outer? id = collected.decls.outer? id := by
  rw [← collected.links_link.outer id]
  unfold link
  rfl

/-- After linking, a symbol has exactly the annotations that have waited for it. -/
theorem get?_link (collected : Collected) (id : SymbolId) :
    collected.link.table.get? id = (collected.table.get? id).map fun symbol => symbol.annotate
      ((collected.queuedFor id).map
        (collected.link.decls.annotationName collected.link.table)) := by
  let decls := collected.decls.linkSupertypes.linkSupertypes.linkMembers
  have htable : collected.link.table =
      collected.decls.pending.toList.foldl (attach decls) collected.table := by
    rw [← collected.links_link.pending, Array.foldl_toList]
    rfl
  have hnames : decls.annotationName collected.table =
      collected.link.decls.annotationName collected.link.table := by
    funext use
    have hsame : collected.link.table.SameNames collected.table := by
      rw [htable]
      exact sameNames_foldl_attach decls _ _
    rw [← decls.annotationName_of_sameNames hsame use]
    exact (decls.annotationName_withPending #[] collected.link.table use).symm
  rw [htable, get?_foldl_attach, ← htable, hnames]
  rfl

end Collected

/-!
# The symbols of a program
-/

namespace Program

variable (units : List SourceUnit) (history : List Nat)

def collected : Collected :=
  Collected.ofUnits (units.map (·.root))

theorem ofUnits_eq : ofUnits units =
    { units, table := (collected units).link.table, decls := (collected units).link.decls } :=
  rfl

theorem table_ofUnits : (ofUnits units).table = (collected units).link.table := by
  rw [ofUnits_eq]

theorem decls_ofUnits : (ofUnits units).decls = (collected units).link.decls := by
  rw [ofUnits_eq]

theorem sites_after :
    ((ofUnits units).after history).decls.sites = (collected units).decls.sites := by
  rw [decls_after, decls_ofUnits, Collected.sites_link]

theorem outer_after (id : SymbolId) :
    ((ofUnits units).after history).decls.outer? id = (collected units).decls.outer? id := by
  rw [decls_after, decls_ofUnits, Collected.outer_link]

theorem annotationName_after (use : PendingAnnotation) :
    ((ofUnits units).after history).decls.annotationName ((ofUnits units).after history).table use =
      (ofUnits units).decls.annotationName (ofUnits units).table use := by
  have hsound : (ofUnits units).decls.Sound False (ofUnits units).table := sound_ofUnits False.elim
  have happends := (ofUnits units).appendsLocals_after history
  rw [decls_after]
  unfold Declarations.annotationName
  dsimp only
  cases hfound : (ofUnits units).decls.typeOf? _ _ with
  | none => rfl
  | some id =>
      have hid : id < (ofUnits units).table.size :=
        hsound.typeOf_lt Declarations.Sound.noParameters hfound
      rw [Option.bind_some, Option.bind_some, Restriction.get_of_appendsLocals happends hid]

theorem get?_after {id : SymbolId} {symbol : Symbol}
    (hsymbol : (collected units).table.get? id = some symbol) :
    ((ofUnits units).after history).table.get? id = some (symbol.annotate
      (((collected units).queuedFor id).map
        (((ofUnits units).after history).decls.annotationName
          ((ofUnits units).after history).table))) := by
  have hlinked : (ofUnits units).table.get? id = some (symbol.annotate
      (((collected units).queuedFor id).map
        ((ofUnits units).decls.annotationName (ofUnits units).table))) := by
    rw [table_ofUnits, decls_ofUnits, (collected units).get?_link id, hsymbol]
    rfl
  rw [Restriction.get_of_appendsLocals ((ofUnits units).appendsLocals_after history)
    (SymbolTable.lt_size_iff.mpr ⟨_, hlinked⟩), hlinked,
    funext fun use => annotationName_after units history use]

theorem extends_after :
    (collected units).table.Extends ((ofUnits units).after history).table :=
  fun _ _ hsymbol => ⟨_, get?_after units history hsymbol⟩

theorem get?_after_cases {id : SymbolId} {symbol : Symbol}
    (hsymbol : ((ofUnits units).after history).table.get? id = some symbol) :
    (∃ before, (collected units).table.get? id = some before ∧
        symbol = before.annotate (((collected units).queuedFor id).map
          (((ofUnits units).after history).decls.annotationName
            ((ofUnits units).after history).table))) ∨
      (symbol.annotations = [] ∧
        symbol.kind ∈ [.localVariable, .parameter, .exceptionParameter, .typeParameter]) := by
  rcases (ofUnits units).appendsLocals_after history with ⟨fresh, htable, hfresh⟩
  by_cases hid : id < (ofUnits units).table.size
  · rcases SymbolTable.lt_size_iff.mp hid with ⟨linked, hlinked⟩
    rw [table_ofUnits, (collected units).get?_link id] at hlinked
    rcases Option.map_eq_some_iff.mp hlinked with ⟨before, hbefore, _⟩
    refine Or.inl ⟨before, hbefore, ?_⟩
    rw [get?_after units history hbefore] at hsymbol
    exact (Option.some.inj hsymbol).symm
  · exact Or.inr (hfresh symbol (SymbolTable.mem_of_append htable hsymbol hid))

end Program

end RestrictedApi
