import RestrictedApi.Proofs.Locals
import RestrictedApi.Proofs.MemberTypes

/-!
# Components of records

What the record of a type lists once its declaration is collected: the names of its fields, the
accessors of its components and how many parameters its constructors take.  All of this can be read
off the tree.  A component is known by a name of its own; one that takes any number of arguments has
none, since its name is written as that of a variable, and is no component to the pass.
-/

namespace RestrictedApi

/-!
# Members in a tree
-/

def NodeKind.isConstructor : NodeKind → Bool
  | .constructorDeclaration | .compactConstructorDeclaration => true
  | _ => false

namespace Node

mutual

/-- The nodes that declare members of the type around: the node itself, or those that it groups. -/
def memberSites (path : Path) : Node → List Site
  | node@⟨kind, _, _, _, _, _, _, _, children⟩ =>
      if kind = .enumBodyDeclarations then memberSitesIn path 0 children else [⟨path, node⟩]

def memberSitesIn (path : Path) (index : Nat) : List Node → List Site
  | [] => []
  | node :: rest =>
      (if node.counts then memberSites (index :: path) node else []) ++
        memberSitesIn path (index + 1) rest

end

end Node

namespace Site

def members (site : Site) : List Site :=
  ((site.child? .body).map fun body => Node.memberSitesIn body.path 0 body.node.children).getD []

def fieldNames (site : Site) : List String :=
  match site.kind with
  | .enumConstant => (site.child? .name).toList.map text
  | .fieldDeclaration | .constantDeclaration =>
      (site.childrenIn .declarator).flatMap fun declarator =>
        (declarator.child? .name).toList.map text
  | _ => []

def constructors (site : Site) : List Site :=
  site.members.filter fun member => member.kind.isConstructor

def constructorArity (components : Nat) (site : Site) : Nat :=
  ((site.child? .parameters).map fun list => list.parameterShape.1).getD components

def components (site : Site) : List Site :=
  ((site.child? .parameters).map namedChildren).getD []

def componentNames (site : Site) : List String :=
  (site.components.filterMap fun component => component.child? .name).map text

end Site

/-!
# Rosters
-/

/-- The members of a type, without their symbols: the names of its fields, the names of methods
without parameters, the number of components, and how many parameters the constructors take. -/
structure Roster where
  fields : List String := []
  accessors : List String := []
  components : Nat := 0
  constructors : List Nat := []

namespace Roster

def add (members : List Site) (roster : Roster) : Roster :=
  { roster with
    fields := roster.fields ++ members.flatMap Site.fieldNames
    constructors := roster.constructors ++
      (members.filter fun member => member.kind.isConstructor).map
        (Site.constructorArity roster.components) }

def addComponent (roster : Roster) (name : String) : Roster :=
  { roster with
    fields := roster.fields ++ [name]
    accessors := roster.accessors ++ [name]
    components := roster.components + 1 }

/-- A class without a constructor gets one that takes its components. -/
def finish (kind : NodeKind) (roster : Roster) : Roster :=
  if (Collector.typeKind kind = .classType ∨ Collector.typeKind kind = .enumType) ∧
      roster.constructors = [] then
    { roster with constructors := [roster.components] }
  else roster

def ofType (site : Site) : Roster :=
  let named := if site.kind = .recordDeclaration then site.componentNames else []
  ((named.foldl addComponent {}).add site.members).finish site.kind

theorem add_nil (roster : Roster) : roster.add [] = roster := by
  cases roster
  simp [add]

theorem add_add (roster : Roster) (members more : List Site) :
    (roster.add members).add more = roster.add (members ++ more) := by
  simp [add]

theorem add_other {site : Site} (hfields : site.fieldNames = [])
    (hkind : site.kind.isConstructor = false) (roster : Roster) : roster.add [site] = roster := by
  cases roster
  simp [add, hfields, hkind]

theorem add_type {site : Site} (hkind : site.kind.isTypeDeclaration = true) (roster : Roster) :
    roster.add [site] = roster := by
  apply add_other
  · unfold Site.fieldNames
    split <;> simp_all [NodeKind.isTypeDeclaration]
  · unfold NodeKind.isConstructor
    split <;> simp_all [NodeKind.isTypeDeclaration]

theorem foldl_addComponent (names : List String) (roster : Roster) :
    names.foldl addComponent roster =
      { fields := roster.fields ++ names
        accessors := roster.accessors ++ names
        components := roster.components + names.length
        constructors := roster.constructors } := by
  induction names generalizing roster with
  | nil => simp
  | cons name rest ih =>
      rw [List.foldl_cons, ih]
      simp [addComponent, Nat.add_comm 1, Nat.add_assoc]

theorem foldl_fields {α : Type} (names : α → List String) (items : List α) (roster : Roster) :
    items.foldl (fun roster item => { roster with fields := roster.fields ++ names item }) roster =
      { roster with fields := roster.fields ++ items.flatMap names } := by
  induction items generalizing roster with
  | nil => simp
  | cons item rest ih =>
      rw [List.foldl_cons, ih]
      simp

end Roster

/-!
# Records of types that agree with a roster
-/

def Collected.Takes (state : Collected) (id : SymbolId) (arity : Nat) : Prop :=
  id < state.table.size ∧ state.decls.members[id]?.map (·.arity) = some arity

structure TypeDecl.Agrees (decl : TypeDecl) (state : Collected) (roster : Roster) : Prop where
  fields : ∀ text, (∃ field, decl.fields[text]? = some field) ↔ text ∈ roster.fields
  accessors : ∀ text, text ∈ roster.accessors →
    ∃ accessor, accessor ∈ decl.methods[text]?.getD [] ∧ state.Takes accessor 0
  components : decl.components = roster.components
  constructors : List.Forall₂ state.Takes decl.constructors roster.constructors

structure Collected.Lists (state : Collected) (id : SymbolId) (roster : Roster) : Prop where
  numbered : id < state.table.size
  recorded : ∃ decl, state.decls.types[id]? = some decl ∧ decl.Agrees state roster

/-- The roster of one type is changed, and no other. -/
def Collected.Turns (owner : Option SymbolId) (change : Roster → Roster)
    (first second : Collected) : Prop :=
  ∀ id roster, first.Lists id roster →
    second.Lists id (if owner = some id then change roster else roster)

theorem Collected.Takes.later {first second : Collected} {touched : Path → Prop} {id : SymbolId}
    {arity : Nat} (h : first.Takes id arity) (hlater : first.Later touched second) :
    second.Takes id arity :=
  ⟨Nat.lt_of_lt_of_le h.1 hlater.size_le, by rw [hlater.members id h.1, h.2]⟩

namespace TypeDecl.Agrees

variable {decl : TypeDecl} {state : Collected} {roster : Roster}

theorem later {second : Collected} {touched : Path → Prop} (h : decl.Agrees state roster)
    (hlater : state.Later touched second) : decl.Agrees second roster where
  fields := h.fields
  accessors := by
    intro text htext
    rcases h.accessors text htext with ⟨accessor, hmem, htakes⟩
    exact ⟨accessor, hmem, htakes.later hlater⟩
  components := h.components
  constructors := h.constructors.imp fun _ _ htakes => htakes.later hlater

theorem addField (h : decl.Agrees state roster) (name : String) (id : SymbolId) :
    (decl.addField name id).Agrees state { roster with fields := roster.fields ++ [name] } where
  fields := by
    intro text
    change (∃ field, (decl.fields.insert name id)[text]? = some field) ↔ _
    rw [List.mem_append, List.mem_singleton, ← h.fields text]
    by_cases hname : text = name
    · rw [hname, getElem?_insert_self]
      simp
    · rw [getElem?_insert_of_ne hname]
      simp [hname]
  accessors := h.accessors
  components := h.components
  constructors := h.constructors

theorem mem_methods_addMethod {decl : TypeDecl} {name text : String} {id method : SymbolId} :
    method ∈ (decl.addMethod name id).methods[text]?.getD [] ↔
      method ∈ decl.methods[text]?.getD [] ∨ (text = name ∧ method = id) := by
  change method ∈ (decl.methods.insert name _)[text]?.getD [] ↔ _
  by_cases hname : text = name
  · rw [hname, getElem?_insert_self, Option.getD_some, List.mem_append, List.mem_singleton]
    simp
  · rw [getElem?_insert_of_ne hname]
    simp [hname]

theorem addMethod (h : decl.Agrees state roster) (name : String) (id : SymbolId) :
    (decl.addMethod name id).Agrees state roster where
  fields := h.fields
  accessors := by
    intro text htext
    rcases h.accessors text htext with ⟨accessor, hmem, htakes⟩
    exact ⟨accessor, mem_methods_addMethod.mpr (Or.inl hmem), htakes⟩
  components := h.components
  constructors := h.constructors

theorem addConstructor (h : decl.Agrees state roster) {id : SymbolId} {arity : Nat}
    (htakes : state.Takes id arity) :
    (decl.addConstructor id).Agrees state
      { roster with constructors := roster.constructors ++ [arity] } where
  fields := h.fields
  accessors := h.accessors
  components := h.components
  constructors := List.rel_append h.constructors (List.Forall₂.cons htakes List.Forall₂.nil)

theorem addComponent (h : decl.Agrees state roster) (name : String) (field : SymbolId)
    {accessor : SymbolId} (htakes : state.Takes accessor 0) :
    TypeDecl.Agrees { (decl.addField name field).addMethod name accessor with
      components := decl.components + 1 } state (roster.addComponent name) where
  fields := (h.addField name field).fields
  accessors := by
    intro text htext
    rcases List.mem_append.mp htext with hbefore | hname
    · rcases h.accessors text hbefore with ⟨found, hmem, hfound⟩
      exact ⟨found, mem_methods_addMethod.mpr (Or.inl hmem), hfound⟩
    · exact ⟨accessor, mem_methods_addMethod.mpr (Or.inr ⟨List.mem_singleton.mp hname, rfl⟩),
        htakes⟩
  components := congrArg (· + 1) h.components
  constructors := h.constructors

theorem exists_constructor_iff (h : decl.Agrees state roster) (count : Nat) :
    (∃ constructor, constructor ∈ decl.constructors ∧
      state.decls.members[constructor]?.map (·.arity) = some count) ↔
      count ∈ roster.constructors := by
  have hconstructors := h.constructors
  generalize decl.constructors = constructors at hconstructors ⊢
  generalize roster.constructors = arities at hconstructors ⊢
  induction hconstructors with
  | nil => simp
  | cons htakes _ ih =>
      simp only [List.mem_cons, exists_eq_or_imp, ih, htakes.2, Option.some.injEq]
      exact or_congr_left eq_comm

end TypeDecl.Agrees

/-!
# Steps
-/

namespace Collected

variable {first second third : Collected} {owner : Option SymbolId} {touched : Path → Prop}

theorem Turns.of_same {change : Roster → Roster} (hchange : ∀ roster, change roster = roster)
    (owner : Option SymbolId) (state : Collected) : state.Turns owner change state := by
  intro type roster hlists
  rwa [hchange, ite_self]

theorem Turns.trans {change next : Roster → Roster} (h : first.Turns owner change second)
    (h' : second.Turns owner next third) :
    first.Turns owner (fun roster => next (change roster)) third := by
  intro type roster hlists
  have hthird := h' type _ (h type roster hlists)
  by_cases howner : owner = some type
  · simpa only [if_pos howner] using hthird
  · simpa only [if_neg howner] using hthird

theorem Lists.of_same {id : SymbolId} {roster : Roster} (h : first.Lists id roster)
    (hlater : first.Later touched second)
    (htypes : second.decls.types[id]? = first.decls.types[id]?) : second.Lists id roster := by
  rcases h.recorded with ⟨decl, hdecl, hagrees⟩
  exact ⟨Nat.lt_of_lt_of_le h.numbered hlater.size_le, decl, htypes.trans hdecl,
    hagrees.later hlater⟩

theorem Turns.of_modify {type : SymbolId} {change : Roster → Roster} (edit : TypeDecl → TypeDecl)
    (hlater : first.Later touched second)
    (htypes : second.decls.types = first.decls.types.modify type edit)
    (hedit : ∀ decl roster, first.decls.types[type]? = some decl → decl.Agrees second roster →
      (edit decl).Agrees second (change roster)) :
    first.Turns (some type) change second := by
  intro other roster hlists
  have hother : second.decls.types[other]? =
      if type = other then first.decls.types[other]?.map edit else first.decls.types[other]? := by
    rw [htypes, Std.TreeMap.getElem?_modify]
    by_cases heq : type = other
    · rw [if_pos (Std.compare_eq_iff_eq.mpr heq), if_pos heq, heq]
    · rw [if_neg fun hcompare => heq (Std.compare_eq_iff_eq.mp hcompare), if_neg heq]
  by_cases heq : type = other
  · rw [if_pos (congrArg some heq)]
    rw [if_pos heq] at hother
    rcases hlists.recorded with ⟨decl, hdecl, hagrees⟩
    rw [hdecl] at hother
    exact ⟨Nat.lt_of_lt_of_le hlists.numbered hlater.size_le, _, hother,
      hedit decl roster (heq ▸ hdecl) (hagrees.later hlater)⟩
  · rw [if_neg fun hsome => heq (Option.some.inj hsome)]
    rw [if_neg heq] at hother
    exact hlists.of_same hlater hother

end Collected

namespace Collector

open Collected

variable {unit : CollectingUnit} {owner : Owner} {state : Collected}

theorem decls_declareTypeParameters (unit : CollectingUnit) (site : Site) (owner : SymbolId)
    (state : Collected) :
    ((declareTypeParameters unit site owner).run state).2.decls = state.decls := by
  unfold declareTypeParameters
  dsimp only
  generalize List.filterMap _ _ = names
  induction names generalizing state with
  | nil => rfl
  | cons nameSite rest ih =>
      rw [List.mapM_cons]
      exact ih _

theorem turns_declareEnumConstant (site : Site) (hkind : site.kind = .enumConstant)
    (hnamed : state.Named) :
    state.Turns (some owner.id) (Roster.add [site])
      ((declareEnumConstant unit owner site).run state).2 := by
  have hlater : state.Later _ ((declareEnumConstant unit owner site).run state).2 :=
    (records_declareEnumConstant [] site hnamed).later
  rw [declareEnumConstant] at hlater ⊢
  cases hname : site.child? .name with
  | none =>
      apply Turns.of_same
      simp [Roster.add, Site.fieldNames, hkind, hname, NodeKind.isConstructor]
  | some nameSite =>
      rw [hname] at hlater
      refine Turns.of_modify (·.addField nameSite.text state.table.size) hlater rfl ?_
      intro decl roster _ hagrees
      have hroster : roster.add [site] =
          { roster with fields := roster.fields ++ [nameSite.text] } := by
        simp [Roster.add, Site.fieldNames, hkind, hname, NodeKind.isConstructor]
      rw [hroster]
      exact hagrees.addField nameSite.text state.table.size

theorem turns_declareMethod (site : Site)
    (hkind : site.kind = .methodDeclaration ∨ site.kind = .annotationElementDeclaration)
    (hnamed : state.Named) :
    state.Turns (some owner.id) (Roster.add [site])
      ((declareMethod unit owner site).run state).2 := by
  have hroster : ∀ roster : Roster, roster.add [site] = roster := by
    apply Roster.add_other
    · rcases hkind with hkind | hkind <;> rw [Site.fieldNames, hkind]
    · rcases hkind with hkind | hkind <;> rw [hkind] <;> rfl
  have hlater : state.Later _ ((declareMethod unit owner site).run state).2 :=
    (records_declareMethod [] site hnamed).later
  rw [declareMethod] at hlater ⊢
  cases hname : site.child? .name with
  | none => exact Turns.of_same hroster _ state
  | some nameSite =>
      rw [hname] at hlater
      refine Turns.of_modify (·.addMethod nameSite.text state.table.size) hlater ?_ ?_
      · have hmember := decls_declareTypeParameters unit site state.table.size
          ((declareMember unit site nameSite.text .method owner).run state).2
        exact congrArg (fun decls => decls.types.modify owner.id
          (·.addMethod nameSite.text state.table.size)) hmember
      · intro decl roster _ hagrees
        rw [hroster]
        exact hagrees.addMethod nameSite.text state.table.size

theorem turns_forM {α : Type} {type : Option SymbolId} {items : List α} {step : α → Collector Unit}
    {change : α → Roster → Roster}
    (hstep : ∀ item (state : Collected), state.Turns type (change item) ((step item).run state).2)
    (state : Collected) :
    state.Turns type (fun roster => items.foldl (fun roster item => change item roster) roster)
      ((items.forM step).run state).2 := by
  induction items generalizing state with
  | nil => exact Turns.of_same (fun _ => rfl) type state
  | cons item rest ih => exact (hstep item state).trans (ih _)

theorem turns_declareFields (site : Site)
    (hkind : site.kind = .fieldDeclaration ∨ site.kind = .constantDeclaration) :
    state.Turns (some owner.id) (Roster.add [site])
      ((declareFields unit owner site).run state).2 := by
  let change (declarator : Site) (roster : Roster) : Roster :=
    { roster with
      fields := roster.fields ++ (declarator.child? .name).toList.map Site.text }
  have hroster : Roster.add [site] = fun roster =>
      (site.childrenIn .declarator).foldl (fun roster item => change item roster) roster := by
    funext roster
    rw [Roster.foldl_fields fun declarator : Site =>
      (declarator.child? .name).toList.map Site.text]
    rcases hkind with hkind | hkind <;>
      simp [Roster.add, Site.fieldNames, hkind, NodeKind.isConstructor]
  rw [hroster]
  apply turns_forM
  intro declarator state
  cases hname : declarator.child? .name with
  | none =>
      apply Turns.of_same
      simp [change, hname]
  | some nameSite =>
      let step : Collector Unit := do
        let field ← declareMember unit site nameSite.text .field owner
        recordSite declarator field
        recordMember field { owner := owner.id, declaredType := declaredType? site }
        modifyOwner owner (·.addField nameSite.text field)
      have hadds : AddsMembers state (fun _ => True) step := by
        apply AddsMembers.bind (AddsMembers.declareMember unit _ owner rfl trivial)
        intro middle hmiddle
        exact AddsMembers.andThen (AddsMembers.recordSite _ trivial)
          (AddsMembers.andThen (AddsMembers.recordMember _ hmiddle.size_le)
            (AddsMembers.modifyOwner owner (fun _ => rfl) fun _ => rfl))
      have hlater := (hadds state (Grows.refl _ state)).toLater
      refine Turns.of_modify (·.addField nameSite.text state.table.size) hlater rfl ?_
      intro decl roster _ hagrees
      have hchange : change declarator roster =
          { roster with fields := roster.fields ++ [nameSite.text] } := by
        simp [change, hname]
      rw [hchange]
      exact hagrees.addField nameSite.text state.table.size

theorem turns_declareConstructor (site : Site) (hkind : site.kind.isConstructor = true)
    (hnamed : state.Named) :
    state.Turns (some owner.id) (Roster.add [site])
      ((declareConstructor unit owner site).run state).2 := by
  have hlater : state.Later _ ((declareConstructor unit owner site).run state).2 :=
    (records_declareConstructor [] site hnamed).later
  refine Turns.of_modify (·.addConstructor state.table.size) hlater ?_ ?_
  · have hmember := decls_declareTypeParameters unit site state.table.size
      ((declareMember unit site constructorName .constructor owner).run state).2
    exact congrArg (fun decls => decls.types.modify owner.id
      (·.addConstructor state.table.size)) hmember
  · intro decl roster hdecl hagrees
    have hfields : site.fieldNames = [] := by
      cases hsite : site.kind <;> rw [hsite] at hkind <;> cases hkind <;>
        rw [Site.fieldNames, hsite]
    have hroster : roster.add [site] = { roster with
        constructors := roster.constructors ++ [site.constructorArity roster.components] } := by
      simp [Roster.add, hfields, hkind]
    have hcomponents : (state.decls.types[owner.id]?.map (·.components)).getD 0 =
        roster.components := by
      rw [hdecl]
      exact hagrees.components
    rw [hroster]
    apply hagrees.addConstructor
    have hsize : state.table.size <
        ((declareMember unit site constructorName .constructor owner).run state).2.table.size :=
      Nat.lt_of_lt_of_eq (Nat.lt_succ_self _) (SymbolTable.size_insert _ _).symm
    have hquiet := AddsMembers.declareTypeParameters unit site state.table.size _
      (Grows.refl (fun _ => False)
        ((declareMember unit site constructorName .constructor owner).run state).2)
    refine ⟨Nat.lt_of_lt_of_le hsize hquiet.size_le, ?_⟩
    refine (congrArg (Option.map _) getElem?_insert_self).trans ?_
    rw [← hcomponents, Site.constructorArity]
    cases site.child? .parameters <;> rfl

theorem turns_declareComponent (site : Site) :
    state.Turns (some owner.id)
      (fun roster => ((site.child? .name).toList.map Site.text).foldl Roster.addComponent roster)
      ((declareComponent unit owner site).run state).2 := by
  rw [declareComponent]
  cases site.child? .name with
  | none => exact Turns.of_same (fun _ => rfl) _ state
  | some nameSite =>
      let member : MemberDecl := { owner := owner.id, declaredType := declaredType? site }
      let step : Collector Unit := do
        let field ← declareMember unit site nameSite.text .field owner
        let accessor ← insertSymbol {
          name := nameSite.text, qualifiedName := nameSite.text, package := unit.package
          kind := .method, owner := some owner.id }
        recordMember field member
        recordMember accessor member
        modifyOwner owner fun decl =>
          { (decl.addField nameSite.text field).addMethod nameSite.text accessor with
            components := decl.components + 1 }
      have hadds : AddsMembers state (fun _ => True) step := by
        apply AddsMembers.bind (AddsMembers.declareMember unit _ owner rfl trivial)
        intro middle hmiddle
        apply AddsMembers.bind (AddsMembers.insertSymbol rfl)
        intro later hlater
        exact AddsMembers.andThen (AddsMembers.recordMember _ hmiddle.size_le)
          (AddsMembers.andThen (AddsMembers.recordMember _ hlater.size_le)
            (AddsMembers.modifyOwner owner (fun _ => rfl) fun _ => rfl))
      have hlater := (hadds state (Grows.refl _ state)).toLater
      let accessor := ((declareMember unit site nameSite.text .field owner).run state).2.table.size
      have htakes : (step.run state).2.Takes accessor 0 := by
        refine ⟨?_, congrArg (Option.map _) getElem?_insert_self⟩
        exact Nat.lt_of_lt_of_eq (Nat.lt_succ_self _) (SymbolTable.size_insert _ _).symm
      refine Turns.of_modify (fun decl =>
        { (decl.addField nameSite.text state.table.size).addMethod nameSite.text accessor with
          components := decl.components + 1 }) hlater rfl ?_
      intro decl roster _ hagrees
      exact hagrees.addComponent nameSite.text state.table.size htakes

theorem turns_declareComponents (site : Site) :
    state.Turns (some owner.id) (fun roster => site.componentNames.foldl Roster.addComponent roster)
      ((declareComponents unit owner site).run state).2 := by
  have hnames : (fun roster : Roster => site.componentNames.foldl Roster.addComponent roster) =
      fun roster => site.components.foldl (fun roster component =>
        ((component.child? .name).toList.map Site.text).foldl Roster.addComponent roster)
        roster := by
    funext roster
    rw [Site.componentNames, List.foldl_map, List.foldl_filterMap]
    congr 1
    funext roster component
    cases component.child? .name <;> rfl
  rw [hnames]
  exact turns_forM (fun component before => turns_declareComponent component) state

theorem constructors_eq_nil_iff {later : Collected} {decl : TypeDecl} {roster : Roster}
    {type : SymbolId} (hdecl : state.decls.types[type]? = some decl)
    (hagrees : decl.Agrees later roster) :
    (state.decls.constructors type).isEmpty = true ↔ roster.constructors = [] := by
  have hlength := hagrees.constructors.length_eq
  rw [Declarations.constructors, hdecl, List.isEmpty_iff, ← List.length_eq_zero_iff,
    ← List.length_eq_zero_iff, ← hlength]
  rfl

theorem turns_finishType (kind : NodeKind) :
    state.Turns (some owner.id) (Roster.finish kind)
      ((finishType unit owner kind).run state).2 := by
  have hlater : state.Later _ ((finishType unit owner kind).run state).2 :=
    (grows_finishType kind fun _ => False).toLater
  rw [finishType] at hlater ⊢
  by_cases hclass : typeKind kind = .classType ∨ typeKind kind = .enumType
  · rw [if_pos hclass] at hlater ⊢
    change state.Later _ ((if (state.decls.constructors owner.id).isEmpty = true then _
      else _ : Collector Unit).run state).2 at hlater
    change state.Turns _ _ ((if (state.decls.constructors owner.id).isEmpty = true then _
      else _ : Collector Unit).run state).2
    by_cases hnone : (state.decls.constructors owner.id).isEmpty = true
    · rw [if_pos hnone] at hlater ⊢
      refine Turns.of_modify (·.addConstructor state.table.size) hlater rfl ?_
      intro decl roster hdecl hagrees
      have hempty := (constructors_eq_nil_iff hdecl hagrees).mp hnone
      have hfinish : roster.finish kind =
          { roster with constructors := roster.constructors ++ [roster.components] } := by
        rw [Roster.finish, if_pos ⟨hclass, hempty⟩, hempty]
        rfl
      rw [hfinish]
      apply hagrees.addConstructor
      refine ⟨Nat.lt_of_lt_of_eq (Nat.lt_succ_self _) (SymbolTable.size_insert _ _).symm, ?_⟩
      refine (congrArg (Option.map _) getElem?_insert_self).trans ?_
      change some ((state.decls.types[owner.id]?.map (·.components)).getD 0) = _
      rw [hdecl]
      exact congrArg some hagrees.components
    · rw [if_neg hnone]
      intro type roster hlists
      by_cases htype : some owner.id = some type
      · rw [if_pos htype]
        rcases hlists.recorded with ⟨decl, hdecl, hagrees⟩
        rw [← Option.some.inj htype] at hdecl
        have hsome : roster.constructors ≠ [] :=
          fun hempty => hnone ((constructors_eq_nil_iff hdecl hagrees).mpr hempty)
        rw [Roster.finish, if_neg fun h => hsome h.2]
        exact hlists
      · rw [if_neg htype]
        exact hlists
  · rw [if_neg hclass]
    exact Turns.of_same (fun roster => if_neg fun h => hclass h.1) _ state

/-!
# Types
-/

theorem agrees_empty {decl : TypeDecl} (state : Collected)
    (hmembers : decl.fields = ∅ ∧ decl.constructors = [] ∧ decl.components = 0) :
    decl.Agrees state {} where
  fields := by
    intro text
    rw [hmembers.1]
    simp
  accessors := fun _ htext => by cases htext
  components := hmembers.2.2
  constructors := by
    rw [hmembers.2.1]
    exact List.Forall₂.nil

theorem types_declareType (unit : CollectingUnit) (outer : Option Owner) (site : Site)
    (name : String) (state : Collected) :
    ∃ decl : TypeDecl, (decl.fields = ∅ ∧ decl.constructors = [] ∧ decl.components = 0) ∧
      ((declareType unit outer site name).run state).2.decls.types =
        (match outer with
        | none => state.decls.types
        | some around => state.decls.types.modify around.id
            (·.addMemberType name state.table.size)).insert state.table.size decl := by
  have htypes := congrArg Declarations.types (decls_declareTypeParameters unit site
    state.table.size (withTypeSymbol unit outer site name state))
  rw [declareType_eq]
  cases outer with
  | none =>
      rw [recordType_none]
      dsimp only
      rw [htypes]
      exact ⟨_, ⟨rfl, rfl, rfl⟩, rfl⟩
  | some around =>
      rw [recordType_some]
      dsimp only
      rw [htypes]
      exact ⟨_, ⟨rfl, rfl, rfl⟩, rfl⟩

theorem numbered_declareType (unit : CollectingUnit) (outer : Option Owner) (site : Site)
    (name : String) (state : Collected) :
    ((declareType unit outer site name).run state).1.id = state.table.size ∧
      ((declareType unit outer site name).run state).2.decls.sites[site.path]? =
        some state.table.size := by
  have hannounced := announced_declareTypeParameters unit outer site name state
  rw [declareType_eq]
  cases outer <;> exact ⟨rfl, hannounced.recorded⟩

theorem lists_declareType (outer : Option Owner) (site : Site) (name : String)
    (hnamed : state.Named) (houter : ∀ around, outer = some around → state.Knows around) :
    (∀ type roster, state.Lists type roster →
      ((declareType unit outer site name).run state).2.Lists type roster) ∧
    ((declareType unit outer site name).run state).2.Lists state.table.size {} := by
  rcases types_declareType unit outer site name state with ⟨fresh, hfresh, htypes⟩
  rcases records_declareType outer site name [] hnamed houter with ⟨hrecords, hknown⟩
  have hid := (numbered_declareType unit outer site name state).1
  generalize (declareType unit outer site name).run state = outcome at *
  constructor
  · intro type roster hlists
    refine ⟨Nat.lt_of_lt_of_le hlists.numbered hrecords.later.size_le, ?_⟩
    rcases hlists.recorded with ⟨decl, hdecl, hbefore⟩
    have hagrees := hbefore.later hrecords.later
    rw [htypes, getElem?_insert_of_ne (Nat.ne_of_lt hlists.numbered)]
    cases outer with
    | none => exact ⟨decl, hdecl, hagrees⟩
    | some around =>
        dsimp only
        rw [Std.TreeMap.getElem?_modify]
        split
        · rename_i hsame
          rw [Std.compare_eq_iff_eq.mp hsame, hdecl]
          exact ⟨_, rfl, { hagrees with }⟩
        · exact ⟨decl, hdecl, hagrees⟩
  · rcases hknown with ⟨symbol, hsymbol, _⟩
    rw [hid] at hsymbol
    refine ⟨SymbolTable.lt_size_iff.mpr ⟨symbol, hsymbol⟩, fresh, ?_, agrees_empty _ hfresh⟩
    rw [htypes, getElem?_insert_self]

end Collector

/-!
# Whole trees
-/

/-- A step changes the roster of the type around, and every type that it declares has its
members. -/
structure Collected.Enrolls (owner : Option SymbolId) (change : Roster → Roster)
    (declared : List Declaration) (first second : Collected) : Prop where
  turns : first.Turns owner change second
  enrolled : ∀ type, type ∈ declared → type.kind.isType = true → ∃ id, first.table.size ≤ id ∧
    second.decls.sites[type.site.path]? = some id ∧ second.Lists id (Roster.ofType type.site)

namespace Collected.Enrolls

variable {owner : Option SymbolId} {change next : Roster → Roster}
variable {declared following : List Declaration} {first second third : Collected}

theorem ofTurns (hturns : first.Turns owner change second)
    (hkinds : ∀ declaration, declaration ∈ declared → declaration.kind.isType = false) :
    first.Enrolls owner change declared second where
  turns := hturns
  enrolled := by
    intro type htype hkind
    rw [hkinds type htype] at hkind
    cases hkind

theorem nil (owner : Option SymbolId) (state : Collected) :
    state.Enrolls owner (Roster.add []) [] state :=
  ofTurns (Turns.of_same Roster.add_nil owner state) fun _ h => by cases h

theorem append (h : first.Enrolls owner change declared second)
    (h' : second.Enrolls owner next following third) (hsize : first.table.size ≤ second.table.size)
    (howner : ∀ id, owner = some id → id < first.table.size)
    (hsites : ∀ type, type ∈ declared → type.kind.isType = true →
      third.decls.sites[type.site.path]? = second.decls.sites[type.site.path]?) :
    first.Enrolls owner (fun roster => next (change roster)) (declared ++ following) third where
  turns := h.turns.trans h'.turns
  enrolled := by
    intro type htype hkind
    rcases List.mem_append.mp htype with hbefore | hafter
    · rcases h.enrolled type hbefore hkind with ⟨id, hid, hsite, hlists⟩
      refine ⟨id, hid, (hsites type hbefore hkind).trans hsite, ?_⟩
      have hthird := h'.turns id _ hlists
      have hne : owner ≠ some id := fun heq => Nat.not_lt.mpr hid (howner id heq)
      rwa [if_neg hne] at hthird
    · rcases h'.enrolled type hafter hkind with ⟨id, hid, hrest⟩
      exact ⟨id, Nat.le_trans hsize hid, hrest⟩

end Collected.Enrolls

theorem Collected.Knows.lt_size {state : Collected} {owner : Owner} (h : state.Knows owner) :
    owner.id < state.table.size := by
  rcases h with ⟨symbol, hsymbol, _⟩
  exact SymbolTable.lt_size_iff.mpr ⟨symbol, hsymbol⟩

namespace Collector

open Collected

variable {unit : CollectingUnit}

theorem kind_of_mem_ofNamed {enclosing : List Site} {kind : SymbolKind} {site : Site}
    (hkind : kind.isType = false) (declaration : Declaration)
    (h : declaration ∈ Declaration.ofNamed enclosing kind site) :
    declaration.kind.isType = false := by
  rcases List.mem_map.mp h with ⟨_, _, rfl⟩
  exact hkind

theorem kind_of_mem_ofFields {enclosing : List Site} {site : Site} (declaration : Declaration)
    (h : declaration ∈ Declaration.ofFields enclosing site) : declaration.kind.isType = false := by
  rcases List.mem_flatMap.mp h with ⟨_, _, hnamed⟩
  rcases List.mem_map.mp hnamed with ⟨_, _, rfl⟩
  rfl

theorem kind_of_mem_ofComponents {enclosing : List Site} {site : Site} (declaration : Declaration)
    (h : declaration ∈ Declaration.ofComponents enclosing site) :
    declaration.kind.isType = false := by
  rcases List.mem_flatMap.mp h with ⟨_, _, hnamed⟩
  exact kind_of_mem_ofNamed rfl declaration hnamed

/-- What is collected within a new type fills its roster and leaves those of the types before
alone. -/
theorem enrolls_withinType {outer : Option Owner} (site : Site)
    (hkind : site.kind.isTypeDeclaration = true) {name : String} {enclosing : List Site}
    {members : List Declaration} (change : Roster → Roster) {next : Owner → Collector Unit}
    {state : Collected} (hnamed : state.Named)
    (houter : ∀ around, outer = some around → state.Knows around)
    (hchange : change {} = Roster.ofType site)
    (hnext : ∀ (type : Owner) (middle : Collected), middle.Named → middle.Knows type →
      middle.Enrolls (some type.id) change members ((next type).run middle).2 ∧
        middle.Later (fun place => ∃ i, (i :: site.path) <:+ place) ((next type).run middle).2) :
    state.Enrolls (outer.map Owner.id) (Roster.add [site])
      (⟨site, site, name, typeKind site.kind, enclosing⟩ :: members)
      ((declareType unit outer site name >>= next).run state).2 := by
  rcases records_declareType outer site name enclosing hnamed houter with ⟨htype, hknown⟩
  rcases lists_declareType outer site name hnamed houter with ⟨hkept, hfresh⟩
  rcases numbered_declareType unit outer site name state with ⟨hid, hsite⟩
  rcases hnext _ _ htype.named hknown with ⟨hmembers, hlater⟩
  rw [hid] at hmembers
  constructor
  · intro id roster hlists
    have hafter := hmembers.turns id roster (hkept id roster hlists)
    rw [if_neg fun heq => Nat.ne_of_lt hlists.numbered (Option.some.inj heq).symm] at hafter
    rwa [Roster.add_type hkind, ite_self]
  · intro type hmem htypeKind
    rcases List.mem_cons.mp hmem with heq | hbelow
    · refine ⟨state.table.size, Nat.le_refl _, ?_, ?_⟩
      · rw [heq]
        refine (hlater.sites site.path ?_).trans hsite
        rintro ⟨i, hsuffix⟩
        have hlength := hsuffix.length_le
        rw [List.length_cons] at hlength
        exact Nat.not_succ_le_self _ hlength
      · have hafter := hmembers.turns _ _ hfresh
        rw [if_pos rfl, hchange] at hafter
        rw [heq]
        exact hafter
    · rcases hmembers.enrolled type hbelow htypeKind with ⟨id, hle, hrest⟩
      exact ⟨id, Nat.le_trans htype.later.size_le hle, hrest⟩

theorem enrolls_finishType {type : Owner} (kind : NodeKind) {touched : Path → Prop}
    {members : List Site} {declared : List Declaration} {before filled : Collected}
    (hknown : before.Knows type) (hrecords : before.Records unit.unit touched declared filled)
    (hmembers : before.Enrolls (some type.id) (Roster.add members) declared filled) :
    before.Enrolls (some type.id) (fun roster => (roster.add members).finish kind) declared
      ((finishType unit type kind).run filled).2 := by
  let finished := ((finishType unit type kind).run filled).2
  have hfinish : filled.Enrolls (some type.id) (Roster.finish kind) [] finished :=
    Enrolls.ofTurns (turns_finishType kind) fun _ h => by cases h
  have hquiet : filled.Grows (fun _ => False) finished := grows_finishType kind _
  rw [← List.append_nil declared]
  refine hmembers.append hfinish hrecords.later.size_le ?_ ?_
  · intro id hid
    rw [← Option.some.inj hid]
    exact hknown.lt_size
  · exact fun inner _ _ => hquiet.sites _ not_false

theorem enrolls_componentsFirst {type : Owner} (enclosing : List Site) (site : Site)
    {members : List Declaration} {change : Roster → Roster} {next : Collector Unit}
    {state : Collected} (hnamed : state.Named) (hknown : state.Knows type)
    (hnext : ∀ middle : Collected, middle.Named → middle.Knows type →
      middle.Enrolls (some type.id) change members (next.run middle).2 ∧
        middle.Later (fun place => ∃ i, (i :: site.path) <:+ place) (next.run middle).2) :
    let final := ((declareComponents unit type site >>= fun _ => next).run state).2
    state.Enrolls (some type.id)
        (fun roster => change (site.componentNames.foldl Roster.addComponent roster))
        (Declaration.ofComponents enclosing site ++ members) final ∧
      state.Later (fun place => ∃ i, (i :: site.path) <:+ place) final := by
  let composed := ((declareComponents unit type site).run state).2
  have hrecords : state.Records unit.unit _ _ composed :=
    records_declareComponents enclosing site hnamed
  have hcomponents : state.Enrolls (some type.id) _
      (Declaration.ofComponents enclosing site) composed :=
    Enrolls.ofTurns (turns_declareComponents site) kind_of_mem_ofComponents
  rcases hnext composed hrecords.named (hrecords.later.knows hknown) with ⟨hrest, hlater⟩
  constructor
  · refine hcomponents.append hrest hrecords.later.size_le ?_ ?_
    · intro id hid
      rw [← Option.some.inj hid]
      exact hknown.lt_size
    · intro component hcomponent hkind
      rw [kind_of_mem_ofComponents component hcomponent] at hkind
      cases hkind
  · refine (hrecords.later.trans hlater).mono ?_
    rintro place (⟨i, _, _, _, hbelow⟩ | hbelow)
    · exact ⟨i, hbelow⟩
    · exact hbelow

mutual

theorem enrolls_declareNode (outer : Option Owner) (enclosing : List Site) (path : Path)
    (node : Node) {state : Collected} (hsides : outer = none ↔ enclosing = [])
    (hnamed : state.Named) (houter : ∀ around, outer = some around → state.Knows around) :
    state.Enrolls (outer.map Owner.id) (Roster.add (node.memberSites path))
      (Declaration.inNode enclosing path node)
      ((declareNode unit outer path node).run state).2 := by
  cases node with
  | mk kind named role line column offset length text children =>
      let site : Site := ⟨path, ⟨kind, named, role, line, column, offset, length, text, children⟩⟩
      rw [declareNode.eq_def, Declaration.inNode.eq_def, Node.memberSites]
      dsimp only
      by_cases hkind : kind.isTypeDeclaration = true
      · have htype : site.kind.isTypeDeclaration = true := hkind
        have hgroup : kind ≠ .enumBodyDeclarations := by
          rintro rfl
          cases hkind
        rw [if_pos hkind, if_pos hkind, if_neg hgroup]
        cases hname : Site.child? _ .name with
        | none =>
            exact Enrolls.ofTurns (Turns.of_same (Roster.add_type htype) _ state)
              fun _ h => by cases h
        | some nameSite =>
            let components := if kind = .recordDeclaration then site.componentNames else []
            refine enrolls_withinType site htype (fun roster =>
              ((components.foldl Roster.addComponent roster).add site.members).finish kind)
              hnamed houter rfl ?_
            intro type middle hmiddle hknown
            have hbody : ∀ before : Collected, before.Named → before.Knows type →
                let after := ((do
                    declareBody unit type path 0 children
                    finishType unit type kind).run before).2
                before.Enrolls (some type.id) (fun roster => (roster.add site.members).finish kind)
                    (Declaration.inBody (site :: enclosing) path 0 children) after ∧
                  before.Later (fun place => ∃ i, (i :: path) <:+ place) after := by
              intro before hbefore hknows after
              let filled := ((declareBody unit type path 0 children).run before).2
              have hrecords : before.Records unit.unit _ _ filled :=
                records_declareBody type site enclosing path 0 children hbefore hknows
              have hmembers : before.Enrolls (some type.id) (Roster.add site.members) _ filled :=
                enrolls_declareBody type site enclosing path 0 children hbefore hknows
              refine ⟨enrolls_finishType kind hknows hrecords hmembers, ?_⟩
              refine (hrecords.thenGrows (grows_finishType kind _)).later.mono ?_
              rintro place ⟨i, _, _, _, hbelow⟩
              exact ⟨0 + i, hbelow⟩
            by_cases hrecord : kind = .recordDeclaration
            · simp only [if_pos hrecord, components]
              exact enrolls_componentsFirst (site :: enclosing) site hmiddle hknown hbody
            · simp only [if_neg hrecord, components]
              exact hbody middle hmiddle hknown
      · rw [if_neg hkind, if_neg hkind]
        cases outer with
        | none =>
            rw [hsides.mp rfl]
            exact ⟨fun id roster hlists => hlists, fun _ h => by cases h⟩
        | some around =>
            cases enclosing with
            | nil => cases hsides.mpr rfl
            | cons inner rest =>
                cases kind with
                | enumBodyDeclarations =>
                    exact enrolls_declareNodes (some around) (inner :: rest) path 0 children
                      hsides hnamed houter
                | enumConstant =>
                    exact Enrolls.ofTurns (turns_declareEnumConstant _ rfl hnamed)
                      (kind_of_mem_ofNamed rfl)
                | fieldDeclaration | constantDeclaration =>
                    exact Enrolls.ofTurns (turns_declareFields _ (by simp [Site.kind]))
                      kind_of_mem_ofFields
                | methodDeclaration | annotationElementDeclaration =>
                    exact Enrolls.ofTurns (turns_declareMethod _ (by simp [Site.kind]) hnamed)
                      (kind_of_mem_ofNamed rfl)
                | constructorDeclaration | compactConstructorDeclaration =>
                    refine Enrolls.ofTurns (turns_declareConstructor _ rfl hnamed) ?_
                    intro declaration hdeclaration
                    rw [List.mem_singleton.mp hdeclaration]
                    rfl
                | _ =>
                    exact Enrolls.ofTurns
                      (Turns.of_same (Roster.add_other rfl rfl) _ state) fun _ h => by cases h

theorem enrolls_declareBody (type : Owner) (inner : Site) (enclosing : List Site) (path : Path)
    (index : Nat) (nodes : List Node) {state : Collected} (hnamed : state.Named)
    (hknown : state.Knows type) :
    state.Enrolls (some type.id)
      (Roster.add
        ((((Site.number path index nodes).find? fun child => child.node.role = some .body).map
          fun body => Node.memberSitesIn body.path 0 body.node.children).getD []))
      (Declaration.inBody (inner :: enclosing) path index nodes)
      ((declareBody unit type path index nodes).run state).2 := by
  cases nodes with
  | nil =>
      rw [declareBody, Declaration.inBody]
      exact Enrolls.nil _ state
  | cons node rest =>
      cases node with
      | mk kind named role line column offset length text members =>
          rw [declareBody, Declaration.inBody, Site.number, List.find?_cons]
          by_cases hrole : role = some .body
          · rw [if_pos hrole, if_pos hrole]
            simp only [hrole, decide_true]
            exact enrolls_declareNodes (some type) (inner :: enclosing) (index :: path) 0
              members (by simp) hnamed fun around haround => Option.some.inj haround ▸ hknown
          · rw [if_neg hrole, if_neg hrole]
            simp only [hrole, decide_false]
            exact enrolls_declareBody type inner enclosing path (index + 1) rest hnamed hknown

theorem enrolls_declareNodes (outer : Option Owner) (enclosing : List Site) (path : Path)
    (index : Nat) (nodes : List Node) {state : Collected} (hsides : outer = none ↔ enclosing = [])
    (hnamed : state.Named) (houter : ∀ around, outer = some around → state.Knows around) :
    state.Enrolls (outer.map Owner.id) (Roster.add (Node.memberSitesIn path index nodes))
      (Declaration.inNodes enclosing path index nodes)
      ((declareNodes unit outer path index nodes).run state).2 := by
  cases nodes with
  | nil =>
      rw [declareNodes, Declaration.inNodes, Node.memberSitesIn]
      exact Enrolls.nil _ state
  | cons node rest =>
      rw [declareNodes, Declaration.inNodes, Node.memberSitesIn]
      by_cases hcounts : node.counts = true
      · simp only [if_pos hcounts]
        let middle := ((declareNode unit outer (index :: path) node).run state).2
        have hrecords : state.Records unit.unit _ _ middle :=
          records_declareNode outer enclosing (index :: path) node hsides hnamed houter
        have hknows : ∀ around, outer = some around → middle.Knows around :=
          fun around haround => hrecords.later.knows (houter around haround)
        have hhere : state.Enrolls _ _ _ middle :=
          enrolls_declareNode outer enclosing (index :: path) node hsides hnamed houter
        have hrest : middle.Enrolls _ _ _
            ((declareNodes unit outer path (index + 1) rest).run middle).2 :=
          enrolls_declareNodes outer enclosing path (index + 1) rest hsides hrecords.named hknows
        have hlater : middle.Later _
            ((declareNodes unit outer path (index + 1) rest).run middle).2 :=
          (records_declareNodes outer enclosing path (index + 1) rest hsides hrecords.named
            hknows).later
        have hboth := hhere.append hrest hrecords.later.size_le ?_ ?_
        · simp only [Roster.add_add] at hboth
          exact hboth
        · intro id hid
          rcases Option.map_eq_some_iff.mp hid with ⟨around, haround, heq⟩
          rw [← heq]
          exact (houter around haround).lt_size
        · intro declaration hdeclaration _
          apply hlater.sites
          rintro ⟨i, hi, hbelow⟩
          have hunder := Declaration.under_of_mem_inNode node hdeclaration _
            declaration.site_mem_recorded
          have hsame := Path.eq_of_cons_suffix hunder hbelow
          omega
      · simp only [if_neg hcounts]
        exact enrolls_declareNodes outer enclosing path (index + 1) rest hsides hnamed houter

end

/-!
# Programs
-/

def KeepsTypes {α : Type} (step : Collector α) : Prop :=
  ∀ state : Collected, (step.run state).2.decls.types = state.decls.types

theorem KeepsTypes.bind {α β : Type} {step : Collector α} {next : α → Collector β}
    (hstep : KeepsTypes step) (hnext : ∀ value, KeepsTypes (next value)) :
    KeepsTypes (step >>= next) :=
  fun state => (hnext _ _).trans (hstep state)

theorem KeepsTypes.foldlM {α β : Type} {step : β → α → Collector β}
    (hstep : ∀ value item, KeepsTypes (step value item)) (start : β) (items : List α) :
    KeepsTypes (items.foldlM step start) := by
  induction items generalizing start with
  | nil => exact fun _ => rfl
  | cons item rest ih =>
      rw [List.foldlM_cons]
      exact (hstep start item).bind ih

theorem keepsTypes_ensurePackage (name : DottedName) : KeepsTypes (ensurePackage name) := by
  rw [ensurePackage_eq]
  refine KeepsTypes.bind (KeepsTypes.foldlM ?_ none name) fun _ _ => rfl
  intro outer segment state
  rw [ensureSegment_run outer segment state rfl]
  split <;> rfl

theorem keepsTypes_openUnit (number : Nat) (root : Node) : KeepsTypes (openUnit number root) := by
  unfold openUnit declarePackage
  split
  · exact fun _ => rfl
  · split
    · exact fun _ => rfl
    · refine KeepsTypes.bind (keepsTypes_ensurePackage _) fun package state => ?_
      cases package <;> rfl

end Collector

namespace Collected

def Enrolled (state : Collected) (roots : List Node) : Prop :=
  ∀ (number : Nat) (root : Node), roots[number]? = some root →
    ∀ type, type ∈ Declaration.inUnit number root → type.kind.isType = true →
      ∃ id, state.decls.sites[type.site.path]? = some id ∧
        state.Lists id (Roster.ofType type.site)

theorem Enrolled.declareUnit {roots : List Node} {state : Collected} (h : state.Enrolled roots)
    (hcomplete : Complete roots state) (root : Node) :
    Enrolled ((Collector.declareUnit roots.length root).run state).2 (roots ++ [root]) := by
  rw [Collector.declareUnit_eq, StateT.run_bind]
  have hopened := Collector.AddsMembers.openUnit roots.length root state
    (Grows.refl (fun _ => False) state)
  have htypes := Collector.keepsTypes_openUnit roots.length root state
  generalize (Collector.openUnit roots.length root).run state = outcome at hopened htypes ⊢
  rcases outcome with ⟨unit, opened⟩
  let names := ((Site.mk [roots.length] root).namedChildren.filter fun child =>
    child.kind = .importDeclaration).foldl Collector.addImport { package := unit.package }
  let pushed : Collected :=
    { opened with decls := { opened.decls with units := opened.decls.units.push names } }
  have hpushed : pushed.Named := { hopened.named hcomplete.named with }
  have hrecords : pushed.Records unit.unit _ _
      ((Collector.declareNodes unit none [roots.length] 0 root.children).run pushed).2 :=
    Collector.records_declareNodes none [] [roots.length] 0 root.children (by simp) hpushed
      fun _ hnone => by cases hnone
  have henrolls : pushed.Enrolls none _ (Declaration.inUnit roots.length root)
      ((Collector.declareNodes unit none [roots.length] 0 root.children).run pushed).2 :=
    Collector.enrolls_declareNodes none [] [roots.length] 0 root.children (by simp) hpushed
      fun _ hnone => by cases hnone
  intro number tree htree type hmem hkind
  by_cases hlt : number < roots.length
  · rw [List.getElem?_append_left hlt] at htree
    rcases h number tree htree type hmem hkind with ⟨id, hsite, hlists⟩
    have hopenedLists := hlists.of_same hopened.toLater (by rw [htypes])
    have hpushedLists : pushed.Lists id (Roster.ofType type.site) :=
      ⟨hopenedLists.numbered, hopenedLists.recorded.imp fun decl hdecl =>
        ⟨hdecl.1, { hdecl.2 with }⟩⟩
    refine ⟨id, ?_, henrolls.turns id _ hpushedLists⟩
    have hkept : pushed.decls.sites[type.site.path]? = some id :=
      (hopened.sites _ not_false).trans hsite
    refine (hrecords.later.sites _ ?_).trans hkept
    rintro ⟨i, _, hbelow⟩
    have hunder := Declaration.under_of_mem_inUnit hmem _ type.site_mem_recorded
    have hother := (List.suffix_cons i [roots.length]).trans hbelow
    exact Nat.ne_of_lt hlt (Path.eq_of_cons_suffix hunder hother)
  · have hlength := (List.getElem?_eq_some_iff.mp htree).1
    rw [List.length_append, List.length_singleton] at hlength
    have heq : number = roots.length := by omega
    rw [heq, List.getElem?_concat_length] at htree
    cases htree
    rw [heq] at hmem
    rcases henrolls.enrolled type hmem hkind with ⟨id, _, hrest⟩
    exact ⟨id, hrest⟩

theorem enrolled_ofUnits (roots : List Node) : (ofUnits roots).Enrolled roots := by
  refine (ofUnits_induction
    (motive := fun roots state => Complete roots state ∧ state.Enrolled roots) ?_ ?_ roots).2
  · exact ⟨complete_empty, fun number root h => by simp at h⟩
  · intro before state root h
    exact ⟨h.1.declareUnit root, h.2.declareUnit h.1 root⟩

end Collected

theorem TypeDecl.members_of_unlinked {decl before : TypeDecl}
    (h : decl.unlinked = before.unlinked) : decl.fields = before.fields ∧
      decl.methods = before.methods ∧ decl.constructors = before.constructors := by
  cases decl
  cases before
  simp only [unlinked, mk.injEq] at h
  simp [h]

theorem Program.arity_after (units : List SourceUnit) (history : List Nat) (id : SymbolId) :
    ((ofUnits units).after history).decls.members[id]?.map (·.arity) =
      (collected units).decls.members[id]?.map (·.arity) := by
  have harity : ∀ (decls : Declarations) (member : MemberDecl),
      (decls.linkMember member).arity = member.arity := by
    intro decls member
    unfold Declarations.linkMember
    split <;> rfl
  rw [members_after, Option.map_map]
  exact congrArg (Option.map · _) (funext fun member => harity _ member)

theorem Roster.ofType_record {site : Site} (hkind : site.kind = .recordDeclaration) :
    ofType site =
      { fields := site.componentNames ++ site.members.flatMap Site.fieldNames
        accessors := site.componentNames
        components := site.componentNames.length
        constructors :=
          if site.constructors = [] then [site.componentNames.length]
          else site.constructors.map (Site.constructorArity site.componentNames.length) } := by
  have hadded : (site.componentNames.foldl addComponent {}).add site.members =
      { fields := site.componentNames ++ site.members.flatMap Site.fieldNames
        accessors := site.componentNames
        components := site.componentNames.length
        constructors :=
          site.constructors.map (Site.constructorArity site.componentNames.length) } := by
    rw [foldl_addComponent]
    simp [add, Site.constructors]
  have hclass : Collector.typeKind site.kind = .classType := by
    rw [hkind]
    rfl
  unfold ofType finish
  simp only [if_pos hkind, hadded, hclass, List.map_eq_nil_iff]
  by_cases hnone : site.constructors = []
  · simp [hnone]
  · simp [hnone]

namespace Program

theorem enrolled_collected (units : List SourceUnit) :
    (collected units).Enrolled (units.map (·.root)) :=
  Collected.enrolled_ofUnits _

/-- The components of a record that have a name of their own are fields with accessors, and no other
name is that of a field unless the body declares it.  A record has a constructor of so many
parameters if and only if its body declares one, or declares none at all and so many components have
names.  So a component that takes any number of arguments is neither a field nor counted, and a
record whose body declares other constructors only has none that takes its components. -/
theorem records_list_named_components (units : List SourceUnit) (history : List Nat) (number : Nat)
    (source : SourceUnit) (record : Declaration) (hsource : units[number]? = some source)
    (hrecord : record ∈ Declaration.inUnit number source.root)
    (htype : record.kind.isType = true) (hkind : record.site.kind = .recordDeclaration) :
    let program := (ofUnits units).after history
    let site := record.site
    ∃ id decl, program.decls.sites[site.path]? = some id ∧ program.decls.types[id]? = some decl ∧
      (∀ name, name ∈ site.componentNames →
        (∃ field, decl.fields[name]? = some field ∧
          program.table.Declares field SymbolKind.IsField name) ∧
        ∃ accessor, accessor ∈ decl.methods[name]?.getD [] ∧
          program.table.Declares accessor (· = .method) name ∧
          program.decls.members[accessor]?.map (·.arity) = some 0) ∧
      (∀ name, (∃ field, decl.fields[name]? = some field) ↔ name ∈ site.componentNames ∨
        ∃ member, member ∈ site.members ∧ name ∈ member.fieldNames) ∧
      ∀ count, (∃ constructor, constructor ∈ decl.constructors ∧
          program.decls.members[constructor]?.map (·.arity) = some count) ↔
        (site.constructors = [] ∧ site.componentNames.length = count) ∨
          ∃ constructor, constructor ∈ site.constructors ∧
            constructor.constructorArity site.componentNames.length = count := by
  intro program site
  rcases enrolled_collected units number source.root (root_of_source hsource) record hrecord htype
    with ⟨id, hsite, hlists⟩
  rcases hlists.recorded with ⟨before, hbefore, hagrees⟩
  have htypes := (relinks_after units history).types id
  rw [hbefore] at htypes
  rcases Option.map_eq_some_iff.mp htypes with ⟨decl, hdecl, hunlinked⟩
  have hsound := ((sound_after units history).types hdecl).2
  rcases TypeDecl.members_of_unlinked hunlinked with ⟨hfields, hmethods, hconstructors⟩
  rw [Roster.ofType_record hkind] at hagrees
  refine ⟨id, decl, ?_, hdecl, ?_, ?_, ?_⟩
  · rw [sites_after]
    exact hsite
  · intro name hname
    constructor
    · rcases (hagrees.fields name).mpr (List.mem_append_left _ hname) with ⟨field, hfield⟩
      rw [← hfields] at hfield
      exact ⟨field, hfield, hsound.fields hfield⟩
    · rcases hagrees.accessors name hname with ⟨accessor, hmem, htakes⟩
      rw [← hmethods] at hmem
      refine ⟨accessor, hmem, ?_, (arity_after units history accessor).trans htakes.2⟩
      cases hnamed : decl.methods[name]? with
      | none =>
          rw [hnamed] at hmem
          cases hmem
      | some methods =>
          rw [hnamed] at hmem
          exact hsound.methods hnamed hmem
  · intro name
    rw [hfields, hagrees.fields, List.mem_append, List.mem_flatMap]
  · intro count
    simp only [program, arity_after, hconstructors]
    rw [hagrees.exists_constructor_iff count]
    by_cases hnone : record.site.constructors = []
    · simp [hnone, site, eq_comm]
    · simp [hnone, site]

end Program

/-- The record `record R(int a, String... rest) { Object all() { return rest(); } }`. -/
def variadicRecord : Node :=
  ⟨.recordDeclaration, true, none, 1, 1, 0, 67, "", [
    ⟨.identifier, true, some .name, 1, 8, 7, 1, "R", []⟩,
    ⟨.formalParameters, true, some .parameters, 1, 9, 8, 23, "", [
      ⟨.formalParameter, true, none, 1, 10, 9, 5, "", [
        ⟨.other, true, some .type, 1, 10, 9, 3, "int", []⟩,
        ⟨.identifier, true, some .name, 1, 14, 13, 1, "a", []⟩]⟩,
      ⟨.spreadParameter, true, none, 1, 17, 16, 14, "", [
        ⟨.typeIdentifier, true, none, 1, 17, 16, 6, "String", []⟩,
        ⟨.variableDeclarator, true, none, 1, 27, 26, 4, "", [
          ⟨.identifier, true, some .name, 1, 27, 26, 4, "rest", []⟩]⟩]⟩]⟩,
    ⟨.classBody, true, some .body, 1, 33, 32, 35, "", [
      ⟨.methodDeclaration, true, none, 1, 35, 34, 31, "", [
        ⟨.typeIdentifier, true, some .type, 1, 35, 34, 6, "Object", []⟩,
        ⟨.identifier, true, some .name, 1, 42, 41, 3, "all", []⟩,
        ⟨.formalParameters, true, some .parameters, 1, 45, 44, 2, "", []⟩,
        ⟨.block, true, some .body, 1, 48, 47, 18, "", [
          ⟨.other, true, none, 1, 50, 49, 14, "", [
            ⟨.methodInvocation, true, none, 1, 57, 56, 6, "", [
              ⟨.identifier, true, some .name, 1, 57, 56, 4, "rest", []⟩,
              ⟨.other, true, some .arguments, 1, 61, 60, 2, "", []⟩]⟩]⟩]⟩]⟩]⟩]⟩

/-- The record `record S(int a) { S() { this(1); } }`. -/
def shortenedRecord : Node :=
  ⟨.recordDeclaration, true, none, 2, 1, 68, 36, "", [
    ⟨.identifier, true, some .name, 2, 8, 75, 1, "S", []⟩,
    ⟨.formalParameters, true, some .parameters, 2, 9, 76, 7, "", [
      ⟨.formalParameter, true, none, 2, 10, 77, 5, "", [
        ⟨.other, true, some .type, 2, 10, 77, 3, "int", []⟩,
        ⟨.identifier, true, some .name, 2, 14, 81, 1, "a", []⟩]⟩]⟩,
    ⟨.classBody, true, some .body, 2, 17, 84, 20, "", [
      ⟨.constructorDeclaration, true, none, 2, 19, 86, 16, "", [
        ⟨.identifier, true, some .name, 2, 19, 86, 1, "S", []⟩,
        ⟨.formalParameters, true, some .parameters, 2, 20, 87, 2, "", []⟩,
        ⟨.constructorBody, true, some .body, 2, 23, 90, 12, "", [
          ⟨.explicitConstructorInvocation, true, none, 2, 25, 92, 8, "", [
            ⟨.thisKeyword, true, some .constructor, 2, 25, 92, 4, "this", []⟩,
            ⟨.other, true, some .arguments, 2, 29, 96, 3, "", [
              ⟨.other, true, none, 2, 30, 97, 1, "1", []⟩]⟩]⟩]⟩]⟩]⟩]⟩

def unusualRecords : SourceUnit where
  path := ⟨"R.java"⟩
  root := ⟨.other, true, none, 1, 1, 0, 105, "", [variadicRecord, shortenedRecord]⟩

/-- The named component of a record with a variable one is a field, and alone it is counted. -/
theorem variadicRecord_listed :
    let program := Program.ofUnits [unusualRecords]
    ∃ id decl, program.decls.sites[[0, 0]]? = some id ∧ program.decls.types[id]? = some decl ∧
      (∃ field, decl.fields["a"]? = some field ∧
        program.table.Declares field SymbolKind.IsField "a") ∧
      ∃ constructor, constructor ∈ decl.constructors ∧
        program.decls.members[constructor]?.map (·.arity) = some 1 := by
  intro program
  rcases Program.records_list_named_components [unusualRecords] [] 0 unusualRecords _ rfl
    (List.mem_of_getElem? (i := 0) rfl) rfl rfl with
    ⟨id, decl, hsite, hdecl, hnamed, _, hconstructors⟩
  refine ⟨id, decl, hsite, hdecl, (hnamed "a" ?_).1, ?_⟩
  · change "a" ∈ ["a"]
    exact List.mem_singleton.mpr rfl
  · exact (hconstructors 1).mpr (Or.inl ⟨rfl, rfl⟩)

/-- The variable component `rest` of the first record is no field and no method, and the constructor
takes one parameter of two; the second record has no constructor for its component. -/
theorem unusualRecords_incomplete :
    let program := Program.ofUnits [unusualRecords]
    let arities (id : SymbolId) := (program.decls.constructors id).map fun constructor =>
      program.decls.members[constructor]?.map (·.arity)
    (Site.mk [0, 0] variadicRecord).components.map Site.kind =
        [.formalParameter, .spreadParameter] ∧
      (Site.mk [1, 0] shortenedRecord).components.map Site.kind = [.formalParameter] ∧
      program.decls.sites[[0, 0]]? = some 0 ∧ program.decls.sites[[1, 0]]? = some 5 ∧
      program.decls.field? 0 "a" = some 1 ∧ program.decls.field? 0 "rest" = none ∧
      program.decls.methods 0 "rest" = [] ∧
      arities 0 = [some 1] ∧ arities 5 = [some 0] := by
  decide +kernel

end RestrictedApi
