import RestrictedApi.Proofs.History
import RestrictedApi.Proofs.Linked
import RestrictedApi.Proofs.Run.Visit

/-!
# References are resolved soundly

A reference that is resolved is resolved to a symbol of the table, and that symbol has the name that
the reference uses, or is a constructor.  A selection is never resolved to a local or to a type
parameter.  The invariant of runs is that everything in scope agrees with the table.
-/

namespace RestrictedApi

/-!
# Sound states
-/

/-- A usage is not resolved, or to a symbol of its name that its shape allows. -/
def Usage.ResolvedIn (table : SymbolTable) (usage : Usage) : Prop :=
  ∀ target, usage.target = some target → ∃ symbol,
    table.get? target = some symbol ∧
      (symbol.name = usage.name ∨
        (usage.name = "super" ∨ usage.name = "this" ∨ usage.name = "new") ∧
          symbol.kind = .constructor) ∧
      (usage.shape = .memberSelect → symbol.kind.isLocal = false ∧ symbol.kind ≠ .typeParameter)

theorem Usage.ResolvedIn.extend {first second : SymbolTable} {usage : Usage}
    (h : usage.ResolvedIn first) (hextends : first.Extends second) : usage.ResolvedIn second := by
  intro target htarget
  rcases h target htarget with ⟨symbol, hsymbol, hname, hkind⟩
  rcases hextends target symbol hsymbol with ⟨annotations, hsecond⟩
  exact ⟨_, hsecond, hname, hkind⟩

structure Block.Sound (table : SymbolTable) (block : Block) : Prop where
  locals : ∀ {name found}, (name, found) ∈ block.locals →
    table.Declares found.symbol (·.isLocal = true) name
  typeParameters : TypeParameters.Sound table block.typeParameters

/-- What is in scope, and what has been found, agrees with the table. -/
structure Walk.Sound (decls : Declarations) (walk : Walk) : Prop where
  decls : decls.Sound True walk.table
  blocks : ∀ {block}, block ∈ walk.blocks → block.Sound walk.table
  references : ∀ {reference}, reference ∈ walk.references →
    reference.usage.ResolvedIn walk.table

theorem Block.Sound.extend {first second : SymbolTable} {block : Block} (h : block.Sound first)
    (hextends : first.Extends second) : block.Sound second where
  locals := fun hmem => hextends.declares (h.locals hmem)
  typeParameters := h.typeParameters.extend hextends

theorem Block.sound_empty (table : SymbolTable) : Block.Sound table {} where
  locals := fun hmem => by cases hmem
  typeParameters := Declarations.Sound.noParameters

namespace Walk.Sound

variable {decls : Declarations} {walk : Walk}

theorem insert (h : walk.Sound decls) (symbol : Symbol) :
    Walk.Sound decls { walk with table := walk.table.insert symbol } :=
  have hextends := SymbolTable.Extends.insert walk.table symbol
  { decls := h.decls.extend hextends
    blocks := fun hblock => (h.blocks hblock).extend hextends
    references := fun hreference => (h.references hreference).extend hextends }

theorem ofBindings (h : walk.Sound decls) (bindings : Array Binding) :
    Walk.Sound decls { walk with bindings } :=
  { h with }

theorem modifyBlock (h : walk.Sound decls) {change : Block → Block}
    (hchange : ∀ block, block.Sound walk.table → (change block).Sound walk.table) :
    (walk.modifyBlock change).Sound decls := by
  unfold Walk.modifyBlock
  cases hblocks : walk.blocks with
  | nil => exact h
  | cons first rest =>
      refine { h with blocks := ?_ }
      intro block hblock
      rcases List.mem_cons.mp hblock with heq | hrest
      · rw [heq]
        exact hchange first (h.blocks (hblocks ▸ List.mem_cons_self))
      · exact h.blocks (hblocks ▸ List.mem_cons_of_mem first hrest)

theorem declare (h : walk.Sound decls) (unit : WalkedUnit) (nameSite : Site) {kind : SymbolKind}
    (type : Option SymbolId) (hkind : kind.isLocal = true) :
    ((Walker.declare unit (some nameSite) kind type).run walk).2.Sound decls := by
  apply Walk.Sound.modifyBlock ((h.insert _).ofBindings _)
  intro block hblock
  refine { hblock with locals := ?_ }
  intro name found hmem
  rcases List.mem_cons.mp hmem with heq | hrest
  · cases heq
    apply (walk.table.declares_insert _).imp
    intro other hother
    rw [hother]
    exact hkind
  · exact hblock.locals hrest

theorem declareTypeParameter (h : walk.Sound decls) {name : String} {id : SymbolId}
    (hid : walk.table.Declares id (· = .typeParameter) name) :
    ((Walker.declareTypeParameter name id).run walk).2.Sound decls := by
  apply h.modifyBlock
  intro block hblock
  refine { hblock with typeParameters := ?_ }
  intro other found hmem
  rcases List.mem_cons.mp hmem with heq | hrest
  · cases heq
    exact hid
  · exact hblock.typeParameters other found hrest

theorem declareLocalTypeParameter (h : walk.Sound decls) (unit : WalkedUnit) (name : String) :
    ((Walker.declareLocalTypeParameter unit name).run walk).2.Sound decls :=
  (h.insert _).declareTypeParameter (walk.table.declares_insert _)

/-!
# Targets
-/

theorem viewParameters (h : walk.Sound decls) (unit : Nat) :
    TypeParameters.Sound walk.table (walk.view unit).parameters := by
  intro name id hmem
  rcases List.mem_flatMap.mp hmem with ⟨block, hblock, hentry⟩
  exact (h.blocks hblock).typeParameters name id hentry

theorem localSymbol (h : walk.Sound decls) {name : String} {found : Local}
    (hfound : walk.local? name = some found) :
    walk.table.Declares found.symbol (·.isLocal = true) name := by
  rcases List.exists_of_findSome?_eq_some hfound with ⟨block, hblock, hlookup⟩
  rcases List.lookup_eq_some_iff.mp hlookup with ⟨before, after, hlocals, _⟩
  apply (h.blocks hblock).locals
  rw [hlocals]
  exact List.mem_append_right before List.mem_cons_self

end Walk.Sound

def SymbolKind.IsSelectable (kind : SymbolKind) : Prop :=
  kind.isLocal = false ∧ kind ≠ .typeParameter

theorem SymbolKind.isSelectable_of_isType {kind : SymbolKind} (hkind : kind.isType = true) :
    kind.IsSelectable := by
  unfold SymbolKind.IsSelectable
  revert hkind
  cases kind <;> decide

theorem SymbolKind.isSelectable_of_isField {kind : SymbolKind} (hkind : kind.IsField) :
    kind.IsSelectable := by
  rcases hkind with hkind | hkind <;> rw [hkind] <;> exact ⟨rfl, by decide⟩

namespace Declarations.Sound

variable {simple : Prop} {decls : Declarations} {table : SymbolTable}

theorem selectFrom {id found : SymbolId} {name : String} {position : Position} {fromType : Bool}
    (h : decls.Sound simple table)
    (hfound : (select.selectFrom decls name position id fromType).1 = some found) :
    table.Declares found SymbolKind.IsSelectable name := by
  unfold select.selectFrom at hfound
  dsimp only at hfound
  split at hfound
  · rename_i hfield
    cases hfound
    exact (h.field (Option.ite_none_left_eq_some.mp hfield).2).imp
      fun _ => SymbolKind.isSelectable_of_isField
  · rename_i _ hmember
    cases hfound
    exact (h.memberType (Option.ite_none_right_eq_some.mp hmember).2).imp
      fun _ => SymbolKind.isSelectable_of_isType
  · rename_i hmethod
    cases hfound
    have hhead := (Option.ite_none_right_eq_some.mp hmethod).2
    apply (h.method (List.mem_of_mem_head? hhead)).imp
    intro kind hkind
    rw [hkind]
    exact ⟨rfl, by decide⟩
  · cases hfound

theorem select_declares {qualifier : Meaning} {name : String} {position : Position} {id : SymbolId}
    (h : decls.Sound simple table) (hid : (decls.select qualifier name position).1 = some id) :
    ∃ found, table.Declares id SymbolKind.IsSelectable found ∧
      (Text.isSimple name = true → found = name) := by
  cases qualifier with
  | package package =>
      rw [Declarations.select] at hid
      cases htype : decls.packageType? package name with
      | some type =>
          rw [htype] at hid
          cases hid
          exact ⟨name, (h.packageTypes htype).imp fun _ => SymbolKind.isSelectable_of_isType,
            fun _ => rfl⟩
      | none =>
          rw [htype] at hid
          cases hpackage : decls.package? (package ++ "." ++ name) with
          | none =>
              simp only [hpackage] at hid
              cases hid
          | some found =>
              simp only [hpackage] at hid
              cases hid
              refine ⟨_, (h.packages hpackage).imp fun kind hkind => ?_, fun hname => ?_⟩
              · rw [hkind]
                exact ⟨rfl, by decide⟩
              · rw [Text.simpleName_qualified, Text.simpleName_of_isSimple hname]
  | type type => exact ⟨name, h.selectFrom hid, fun _ => rfl⟩
  | value type => exact ⟨name, h.selectFrom hid, fun _ => rfl⟩
  | unknown => cases hid

theorem select {qualifier : Meaning} {name : String} {position : Position} {id : SymbolId}
    (h : decls.Sound simple table) (hname : Text.isSimple name = true)
    (hid : (decls.select qualifier name position).1 = some id) :
    table.Declares id SymbolKind.IsSelectable name := by
  rcases h.select_declares hid with ⟨found, hdeclares, hfound⟩
  rw [hfound hname] at hdeclares
  exact hdeclares

end Declarations.Sound

theorem SymbolKind.isLocal_of_isTypeName {kind : SymbolKind} (hkind : kind.IsTypeName) :
    kind.isLocal = false := by
  rcases hkind with htype | hparameter
  · exact (SymbolKind.isSelectable_of_isType htype).1
  · rw [hparameter]
    rfl

theorem Resolved.local_or_declares {simple : Prop} {unit : WalkedUnit} {parent : Option Node}
    {node : Node} {walk : Walk} {shape : UsageShape} {name : String} {id : SymbolId}
    (hdecls : unit.decls.Sound simple walk.table)
    (hparameters : TypeParameters.Sound walk.table walk.typeParameters)
    (h : Resolved unit parent node walk shape name (some id)) :
    (∃ found, walk.local? name = some found ∧ found.symbol = id) ∨
      ∃ other, walk.table.Declares id (·.isLocal = false) other := by
  cases h with
  | localVariable hlocal => exact Or.inl ⟨_, hlocal, rfl⟩
  | simpleType hid =>
      rcases hdecls.simpleType hparameters hid with ⟨found, hdeclares, _⟩
      exact Or.inr ⟨found, hdeclares.imp fun _ => SymbolKind.isLocal_of_isTypeName⟩
  | field hid =>
      exact Or.inr ⟨_, (hdecls.field hid).imp fun _ hkind =>
        (SymbolKind.isSelectable_of_isField hkind).1⟩
  | method hid => exact Or.inr ⟨_, (hdecls.method hid).imp fun _ hkind => hkind ▸ rfl⟩
  | package _ _ hid => exact Or.inr ⟨_, (hdecls.packages hid).imp fun _ hkind => hkind ▸ rfl⟩
  | selection _ _ hid =>
      rcases hdecls.select_declares hid with ⟨found, hdeclares, _⟩
      exact Or.inr ⟨found, hdeclares.imp fun _ hkind => hkind.1⟩
  | constructor _ hid => exact Or.inr ⟨_, (hdecls.constructor hid).imp fun _ hkind => hkind ▸ rfl⟩

theorem SymbolTable.Declares.resolvedIn {table : SymbolTable} {id : SymbolId}
    {kinds : SymbolKind → Prop} {usage : Usage} (h : table.Declares id kinds usage.name)
    (hkinds : usage.shape = .memberSelect → ∀ kind, kinds kind → kind.IsSelectable)
    (htarget : usage.target = some id) : usage.ResolvedIn table := by
  intro target htarget'
  rw [htarget] at htarget'
  cases htarget'
  rcases h with ⟨symbol, hsymbol, hkind, hname⟩
  exact ⟨symbol, hsymbol, Or.inl hname, fun hshape => hkinds hshape _ hkind⟩

theorem Resolved.resolvedIn {unit : WalkedUnit} {parent : Option Node} {node : Node} {walk : Walk}
    {usage : Usage} (hwalk : walk.Sound unit.decls) (hnode : node.isNamedSimply parent = true)
    (h : Resolved unit parent node walk usage.shape usage.name usage.target) :
    usage.ResolvedIn walk.table := by
  rcases usage with ⟨shape, name, location, inImport, target, suppressions⟩
  cases h with
  | unresolved =>
      intro target htarget
      cases htarget
  | localVariable hlocal =>
      exact (hwalk.localSymbol hlocal).resolvedIn (fun hshape => by cases hshape) rfl
  | simpleType hid =>
      rcases hwalk.decls.simpleType (hwalk.viewParameters unit.unit) hid with
        ⟨found, hdeclares, hname⟩
      rw [hname trivial] at hdeclares
      exact hdeclares.resolvedIn (fun hshape => by cases hshape) rfl
  | field hid =>
      exact (hwalk.decls.field hid).resolvedIn (fun hshape => by cases hshape) rfl
  | method hid =>
      refine (hwalk.decls.method hid).resolvedIn (fun _ kind hkind => ?_) rfl
      rw [hkind]
      exact ⟨rfl, by decide⟩
  | package htoken hname hid =>
      have hsimple := Node.isSimple_of_isNamedSimply hnode htoken
      rw [← hname] at hsimple
      have hdeclares := hwalk.decls.packages hid
      rw [Text.simpleName_of_isSimple hsimple] at hdeclares
      exact hdeclares.resolvedIn (fun hshape => by cases hshape) rfl
  | selection htoken hname hid =>
      have hsimple := Node.isSimple_of_isNamedSimply hnode htoken
      rw [← hname] at hsimple
      exact (hwalk.decls.select hsimple hid).resolvedIn (fun _ _ hkind => hkind) rfl
  | constructor hname hid =>
      rcases hwalk.decls.constructor hid with ⟨symbol, hsymbol, hkind, _⟩
      intro target htarget
      cases htarget
      refine ⟨symbol, hsymbol, Or.inr ⟨hname, hkind⟩, fun _ => ?_⟩
      rw [hkind]
      exact ⟨rfl, by decide⟩

theorem Walk.Sound.report {unit : WalkedUnit} {parent : Option Node} {site : Site} {walk : Walk}
    (hwalk : walk.Sound unit.decls) (hsite : site.node.isNamedSimply parent = true)
    {shape : UsageShape} {name : String} {target : Option SymbolId} (inImport : Bool)
    (hresolved : Resolved unit parent site.node walk shape name target) :
    ((Walker.report unit site shape name target inImport).run walk).2.Sound unit.decls := by
  change Walk.Sound unit.decls (if walk.muted > 0 then walk else _)
  by_cases hmuted : walk.muted > 0
  · rw [if_pos hmuted]
    exact hwalk
  · rw [if_neg hmuted]
    refine { hwalk with references := ?_ }
    intro reference hreference
    rcases Array.mem_push.mp hreference with hold | hnew
    · exact hwalk.references hold
    · rw [hnew]
      change Usage.ResolvedIn walk.table _
      exact Resolved.resolvedIn hwalk hsite hresolved

theorem Walk.OpensBlock.keepsSound {unit : WalkedUnit} {first opened : Walk}
    (h : first.OpensBlock unit opened) (hfirst : first.Sound unit.decls) :
    opened.Sound unit.decls := by
  induction h with
  | empty =>
      refine { hfirst with blocks := ?_ }
      intro block hblock
      rcases List.mem_cons.mp hblock with heq | hrest
      · rw [heq]
        exact Block.sound_empty _
      · exact hfirst.blocks hrest
  | typeParameter _ hmember hentry ih =>
      exact ih.declareTypeParameter ((ih.decls.members hmember).2.typeParameters _ _ hentry)
  | localTypeParameter name _ ih => exact ih.declareLocalTypeParameter unit name

/-- The invariant of runs: what is in scope and what is found agrees with the table. -/
theorem Run.keepsSound {unit : WalkedUnit} {place : Place} {first second : Walk}
    (hrun : Run unit Walk.MeetsLimit place first second)
    (hsimple : place.Everywhere Node.isNamedSimply)
    (hfirst : first.Sound unit.decls) : second.Sound unit.decls := by
  induction hrun with
  | refl => exact hfirst
  | trans _ _ ih ih' => exact ih' hsimple (ih hsimple hfirst)
  | child hchild _ ih => exact ih (hsimple _ hchild) hfirst
  | enter _ _ ih => exact ih (Place.everywhere_inside hsimple) hfirst
  | declaration _ _ ih =>
      have hsecond := ih (Place.everywhere_inside hsimple) { hfirst with }
      exact { hsecond with }
  | inBlock hopens _ ih =>
      have hsecond := ih hsimple (hopens.keepsSound hfirst)
      exact { hsecond with blocks := fun hblock => hsecond.blocks (List.mem_of_mem_tail hblock) }
  | within _ _ ih | inSwitch _ _ ih | unheard _ ih =>
      have hsecond := ih hsimple { hfirst with }
      exact { hsecond with }
  | report inImport hresolved =>
      exact hfirst.report ((Node.everywhere_iff _ _ _).mp hsimple).1 inImport hresolved
  | declare nameSite type hkind => exact hfirst.declare unit nameSite type hkind
  | visit hmeets =>
      rcases hmeets with rfl
      exact { hfirst with }

/-!
# Programs
-/

namespace Program

structure NamedSoundly (program : Program) : Prop where
  units : ∀ {source}, source ∈ program.units →
    source.root.everywhere Node.isNamedSimply none = true
  decls : program.decls.Sound True program.table

theorem NamedSoundly.walk {program : Program} (h : program.NamedSoundly) {number : Nat}
    {source : SourceUnit} (hsource : program.units[number]? = some source) :
    (program.walk number source).Sound program.decls := by
  have hrun := (program.walkedUnit number source).run_walk program.table source.root
  refine hrun.keepsSound (h.units (List.mem_of_getElem? hsource)) ?_
  exact
    { decls := h.decls
      blocks := fun hblock => by
        rw [List.mem_singleton.mp hblock]
        exact Block.sound_empty _
      references := fun hreference => absurd hreference (Array.not_mem_empty _) }

theorem NamedSoundly.usages {program : Program} (h : program.NamedSoundly) (number : Nat) :
    (program.usages number).2.NamedSoundly := by
  unfold Program.usages
  split
  · exact h
  · rename_i source hsource
    exact { units := h.units, decls := (h.walk hsource).decls }

theorem NamedSoundly.after {program : Program} (h : program.NamedSoundly) (history : List Nat) :
    (program.after history).NamedSoundly := by
  induction history generalizing program with
  | nil => exact h
  | cons number rest ih => exact ih (h.usages number)

/-- A resolved usage names its symbol, or is a call of a constructor; a selection is never resolved
to a local or a type parameter. -/
theorem usages_resolved_soundly (units : List SourceUnit)
    (hunits : ∀ source, source ∈ units → source.root.everywhere Node.isNamedSimply none = true)
    (history : List Nat) (number : Nat) (usages : List Usage)
    (husages : (((ofUnits units).after history).usages number).1 = .ok usages)
    (usage : Usage) (husage : usage ∈ usages) (target : SymbolId)
    (htarget : usage.target = some target) :
    ∃ symbol,
      (((ofUnits units).after history).usages number).2.table.get? target = some symbol ∧
        (symbol.name = usage.name ∨
          (usage.name = "super" ∨ usage.name = "this" ∨ usage.name = "new") ∧
            symbol.kind = .constructor) ∧
        (usage.shape = .memberSelect →
          symbol.kind ≠ .localVariable ∧ symbol.kind ≠ .parameter ∧
            symbol.kind ≠ .exceptionParameter ∧ symbol.kind ≠ .typeParameter) := by
  have hofUnits : (ofUnits units).NamedSoundly :=
    { units := fun {source} hsource => hunits source hsource
      decls := sound_ofUnits fun _ => hunits }
  have hprogram := hofUnits.after history
  generalize (ofUnits units).after history = program at hprogram husages
  cases hsource : program.units[number]? with
  | none =>
      rw [usages_of_none hsource] at husages
      cases husages
      cases husage
  | some source =>
      rw [← ((usages_eq_ok_iff hsource).mp husages).2] at husage
      rcases List.mem_map.mp husage with ⟨reference, hreference, heq⟩
      have hresolved := (hprogram.walk hsource).references (Array.mem_toList_iff.mp hreference)
      rw [heq] at hresolved
      rcases hresolved target htarget with ⟨symbol, hsymbol, hname, hkind⟩
      refine ⟨symbol, ?_, hname, fun hshape => ?_⟩
      · rw [table_usages hsource]
        exact hsymbol
      · have hselectable := hkind hshape
        refine ⟨?_, ?_, ?_, hselectable.2⟩ <;> intro heq <;> rw [heq] at hselectable <;>
          cases hselectable.1

end Program

/-- The unit `class A { A a = A.a; }`. -/
def selfSelecting : SourceUnit where
  path := ⟨"A.java"⟩
  root := ⟨.other, true, none, 1, 1, 0, 22, "", [
    ⟨.classDeclaration, true, none, 1, 1, 0, 22, "", [
      ⟨.identifier, true, some .name, 1, 7, 6, 1, "A", []⟩,
      ⟨.classBody, true, some .body, 1, 9, 8, 14, "", [
        ⟨.fieldDeclaration, true, none, 1, 11, 10, 10, "", [
          ⟨.typeIdentifier, true, some .type, 1, 11, 10, 1, "A", []⟩,
          ⟨.variableDeclarator, true, some .declarator, 1, 13, 12, 7, "", [
            ⟨.identifier, true, some .name, 1, 13, 12, 1, "a", []⟩,
            ⟨.fieldAccess, true, some .value, 1, 17, 16, 3, "", [
              ⟨.identifier, true, some .object, 1, 17, 16, 1, "A", []⟩,
              ⟨.identifier, true, some .field, 1, 19, 18, 1, "a", []⟩]⟩]⟩]⟩]⟩]⟩]⟩

def selfSelection : Usage where
  shape := .memberSelect
  name := "a"
  location := ⟨⟨"A.java"⟩, 1, 19, 18, 1⟩
  target := some 1

def selfSelectingUsages : List Usage :=
  [{ shape := .identifier, name := "A", location := ⟨⟨"A.java"⟩, 1, 11, 10, 1⟩, target := some 0 },
    { shape := .identifier, name := "A", location := ⟨⟨"A.java"⟩, 1, 17, 16, 1⟩, target := some 0 },
    selfSelection]

theorem selfSelection_resolved :
    let program := (Program.ofUnits [selfSelecting]).after [0]
    selfSelecting.root.everywhere Node.isNamedSimply none = true ∧
      (program.usages 0).1 = .ok selfSelectingUsages ∧
      ∃ symbol, (program.usages 0).2.table.get? 1 = some symbol ∧
        (symbol.name = selfSelection.name ∨
          (selfSelection.name = "super" ∨ selfSelection.name = "this" ∨
            selfSelection.name = "new") ∧ symbol.kind = .constructor) ∧
        (selfSelection.shape = .memberSelect →
          symbol.kind ≠ .localVariable ∧ symbol.kind ≠ .parameter ∧
            symbol.kind ≠ .exceptionParameter ∧ symbol.kind ≠ .typeParameter) := by
  intro program
  have hsimple : selfSelecting.root.everywhere Node.isNamedSimply none = true := by decide
  have husages : (program.usages 0).1 = .ok selfSelectingUsages :=
    (Program.usages_eq_ok_iff rfl).mpr ⟨by decide +kernel, by decide +kernel⟩
  refine ⟨hsimple, husages, ?_⟩
  refine Program.usages_resolved_soundly [selfSelecting] ?_ [0] 0 selfSelectingUsages husages
    selfSelection (by decide) 1 rfl
  intro source hsource
  rw [List.mem_singleton.mp hsource]
  exact hsimple

end RestrictedApi
