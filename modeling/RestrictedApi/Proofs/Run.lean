import RestrictedApi.Extraction.Walk
import RestrictedApi.Proofs.Ancestry
import RestrictedApi.Proofs.SimpleName

/-!
# Runs of a walk

A walk changes its state in few ways: it opens something and closes it again, it reports a reference
or brings a name into scope, and it visits sites.  A run is a sequence of such changes at a place of
the tree.  Every step of a walk is a run, so what all runs preserve is preserved by every step.
What the visits do is left open: they may do what a run does, or only keep some relation.
-/

namespace RestrictedApi

/-- The declarations whose annotations silence warnings within them. -/
def NodeKind.silences : NodeKind → Bool
  | .classDeclaration | .interfaceDeclaration | .enumDeclaration | .annotationTypeDeclaration
  | .recordDeclaration | .fieldDeclaration | .constantDeclaration | .methodDeclaration
  | .constructorDeclaration | .compactConstructorDeclaration | .annotationElementDeclaration
  | .enumConstant | .localVariableDeclaration => true
  | _ => false

theorem NodeKind.silences_eq_false_of_isAnnotationUse {kind : NodeKind}
    (hkind : kind.isAnnotationUse = true) : kind.silences = false := by
  revert hkind
  cases kind <;> decide

theorem NodeKind.eq_of_isName {kind : NodeKind} (hkind : kind.isName = true) :
    kind = .identifier ∨ kind = .scopedIdentifier := by
  revert hkind
  cases kind <;> decide

namespace Node

/-- Children that are not visited themselves although what they hold is: the segments of names,
lists of arguments and of parameters, declarators, and the bodies of enum constants. -/
def entersDirectly (parent child : Node) : Bool :=
  match parent.kind with
  | .annotationMarker | .annotationCall =>
      child.role = some .name || child.role = some .arguments || child.role = some .scope
  | .methodInvocation | .objectCreation | .explicitConstructorInvocation =>
      child.role = some .arguments || child.role = some .scope
  | .localVariableDeclaration => child.role = some .declarator || child.role = some .scope
  | .enumConstant => child.role = some .body || child.role = some .scope
  | .lambdaExpression => child.role = some .parameters || child.role = some .scope
  | .formalParameters => true
  | _ => child.role = some .scope

def enteredFrom (child : Node) (parent : Option Node) : Bool :=
  parent.any fun parent => parent.entersDirectly child

theorem enteredFrom_of_scope {parent child : Node} (hrole : child.role = some .scope) :
    child.enteredFrom (some parent) = true := by
  change parent.entersDirectly child = true
  unfold entersDirectly
  split <;> simp [hrole]

theorem enteredFrom_of_annotation {parent child : Node}
    (hkind : parent.kind.isAnnotationUse = true)
    (hrole : child.role = some .name ∨ child.role = some .arguments) :
    child.enteredFrom (some parent) = true := by
  change parent.entersDirectly child = true
  cases hparent : parent.kind <;> rw [hparent] at hkind <;> cases hkind <;>
    rcases hrole with hrole | hrole <;> simp [entersDirectly, hparent, hrole]

end Node

/-!
# Targets

How the target of a reference is found, given the state of the walk at that moment.  The reference
is at `node`, whose parent is `parent`.
-/

inductive Resolved (unit : WalkedUnit) (parent : Option Node) (node : Node) (walk : Walk) :
    UsageShape → String → Option SymbolId → Prop where
  | unresolved {shape : UsageShape} {name : String} :
      Resolved unit parent node walk shape name none
  | localVariable {name : String} {found : Local} :
      walk.local? name = some found →
      Resolved unit parent node walk .identifier name (some found.symbol)
  | simpleType {name : String} {id : SymbolId} :
      unit.decls.simpleType? (walk.view unit.unit) name = some id →
      Resolved unit parent node walk .identifier name (some id)
  | field {name : String} {type id : SymbolId} :
      unit.decls.field? type name = some id →
      Resolved unit parent node walk .identifier name (some id)
  | method {shape : UsageShape} {name : String} {type id : SymbolId} :
      id ∈ unit.decls.methods type name →
      Resolved unit parent node walk shape name (some id)
  | package {name : String} {id : SymbolId} :
      node.isNameToken parent = true →
      name = node.text →
      unit.decls.package? name = some id →
      Resolved unit parent node walk .identifier name (some id)
  | selection {name : String} {qualifier : Meaning} {position : Position} {id : SymbolId} :
      node.isNameToken parent = true →
      name = node.text →
      (unit.decls.select qualifier name position).1 = some id →
      Resolved unit parent node walk .memberSelect name (some id)
  | constructor {shape : UsageShape} {name : String} {type id : SymbolId} :
      name = "super" ∨ name = "this" ∨ name = "new" →
      id ∈ unit.decls.constructors type →
      Resolved unit parent node walk shape name (some id)

/-!
# Blocks

A change of the innermost block leaves the rest of the state as it is.
-/

namespace Walk

theorem modifyBlock_table (walk : Walk) (change : Block → Block) :
    (walk.modifyBlock change).table = walk.table := by
  unfold modifyBlock
  split <;> rfl

theorem modifyBlock_suppressions (walk : Walk) (change : Block → Block) :
    (walk.modifyBlock change).suppressions = walk.suppressions := by
  unfold modifyBlock
  split <;> rfl

theorem modifyBlock_references (walk : Walk) (change : Block → Block) :
    (walk.modifyBlock change).references = walk.references := by
  unfold modifyBlock
  split <;> rfl

theorem modifyBlock_bindings (walk : Walk) (change : Block → Block) :
    (walk.modifyBlock change).bindings = walk.bindings := by
  unfold modifyBlock
  split <;> rfl

end Walk

/-!
# Runs
-/

def SymbolKind.isLocal : SymbolKind → Bool
  | .localVariable | .parameter | .exceptionParameter => true
  | _ => false

namespace Walker

def declareLocalTypeParameter (unit : WalkedUnit) (name : String) : Walker Unit := do
  let id ← insertSymbol {
    name, qualifiedName := name, package := unit.package, kind := .typeParameter }
  declareTypeParameter name id

end Walker

/-- Where changes of state are made: on a site with a parent, or among the children of a site. -/
inductive Place where
  | whole (parent : Option Node) (site : Site)
  | inside (site : Site)

def Place.Everywhere (test : Option Node → Node → Bool) : Place → Prop
  | .whole parent site => site.node.everywhere test parent = true
  | .inside site =>
      ∀ child, child ∈ site.children → child.node.everywhere test (some site.node) = true

theorem Place.everywhere_inside {test : Option Node → Node → Bool} {parent : Option Node}
    {site : Site} (hplace : (Place.whole parent site).Everywhere test) :
    (Place.inside site).Everywhere test :=
  fun _ hchild => Site.everywhere_of_mem_children hplace hchild

theorem Walker.forM_induct {α : Type} {holds : Walk → Prop} {items : List α}
    {step : α → Walker Unit} {walk : Walk} (hwalk : holds walk)
    (hstep : ∀ item, item ∈ items → ∀ walk, holds walk → holds ((step item).run walk).2) :
    holds ((items.forM step).run walk).2 := by
  induction items generalizing walk with
  | nil => exact hwalk
  | cons item rest ih =>
      exact ih (hstep item List.mem_cons_self walk hwalk)
        fun other hother => hstep other (List.mem_cons_of_mem item hother)

/-- A block is opened, with the type parameters that a method brings into its scope. -/
inductive Walk.OpensBlock (unit : WalkedUnit) (first : Walk) : Walk → Prop where
  | empty : OpensBlock unit first { first with blocks := {} :: first.blocks }
  | typeParameter {opened : Walk} {name : String} {id member : SymbolId} {decl : MemberDecl} :
      OpensBlock unit first opened →
      unit.decls.members[member]? = some decl →
      (name, id) ∈ decl.typeParameters →
      OpensBlock unit first ((Walker.declareTypeParameter name id).run opened).2
  | localTypeParameter {opened : Walk} (name : String) :
      OpensBlock unit first opened →
      OpensBlock unit first ((Walker.declareLocalTypeParameter unit name).run opened).2

theorem Walk.OpensBlock.eq {unit : WalkedUnit} {first opened : Walk}
    (h : first.OpensBlock unit opened) :
    ∃ block table, opened = { first with blocks := block :: first.blocks, table } := by
  induction h with
  | empty => exact ⟨{}, first.table, rfl⟩
  | typeParameter _ _ _ ih | localTypeParameter _ _ ih =>
      rcases ih with ⟨block, table, rfl⟩
      exact ⟨_, _, rfl⟩

/-- The changes of state that are made at a place, where `visited` says what the visit of a site may
change. -/
inductive Run (unit : WalkedUnit) (visited : Site → Walk → Walk → Prop) :
    Place → Walk → Walk → Prop where
  | refl (place : Place) (walk : Walk) : Run unit visited place walk walk
  | trans {place : Place} {first second third : Walk} :
      Run unit visited place first second → Run unit visited place second third →
      Run unit visited place first third
  | visit {parent : Option Node} {site : Site} {first second : Walk} :
      visited site first second → Run unit visited (.whole parent site) first second
  | child {site child : Site} {first second : Walk} :
      child ∈ site.children →
      Run unit visited (.whole (some site.node) child) first second →
      Run unit visited (.inside site) first second
  | enter {parent : Option Node} {site : Site} {first second : Walk} :
      (site.kind.silences = true → site.node.enteredFrom parent = true) →
      Run unit visited (.inside site) first second →
      Run unit visited (.whole parent site) first second
  /-- The children of a declaration are walked, with what it silences. -/
  | declaration {parent : Option Node} {site : Site} {first second : Walk} :
      site.kind.silences = true →
      Run unit visited (.inside site)
        { first with
          suppressions := (first.silenced ++ site.suppressedWarnings) :: first.suppressions }
        second →
      Run unit visited (.whole parent site) first
        { second with suppressions := second.suppressions.tail }
  | within {place : Place} {first second : Walk} (enclosing : Enclosing) :
      Run unit visited place { first with enclosing := enclosing :: first.enclosing } second →
      Run unit visited place first { second with enclosing := second.enclosing.tail }
  | inBlock {place : Place} {first opened second : Walk} :
      first.OpensBlock unit opened →
      Run unit visited place opened second →
      Run unit visited place first { second with blocks := second.blocks.tail }
  | inSwitch {place : Place} {first second : Walk} (selector : Option SymbolId) :
      Run unit visited place { first with switches := selector :: first.switches } second →
      Run unit visited place first { second with switches := second.switches.tail }
  | unheard {place : Place} {first second : Walk} :
      Run unit visited place { first with muted := first.muted + 1 } second →
      Run unit visited place first { second with muted := second.muted - 1 }
  | report {parent : Option Node} {site : Site} {walk : Walk} {shape : UsageShape} {name : String}
      {target : Option SymbolId} (inImport : Bool) :
      Resolved unit parent site.node walk shape name target →
      Run unit visited (.whole parent site) walk
        ((Walker.report unit site shape name target inImport).run walk).2
  | declare {place : Place} {walk : Walk} (nameSite : Site) {kind : SymbolKind}
      (type : Option SymbolId) :
      kind.isLocal = true →
      Run unit visited place walk ((Walker.declare unit (some nameSite) kind type).run walk).2

/-- Every execution of a step is a run at a place. -/
def Runs {α : Type} (unit : WalkedUnit) (visited : Site → Walk → Walk → Prop) (place : Place)
    (step : Walker α) : Prop :=
  ∀ walk, Run unit visited place walk (step.run walk).2

namespace Runs

variable {α β : Type} {unit : WalkedUnit} {visited : Site → Walk → Walk → Prop} {place : Place}

/-!
# Composing steps
-/

theorem pure (value : α) : Runs unit visited place (pure value) :=
  fun walk => Run.refl place walk

theorem bind {step : Walker α} {next : α → Walker β} (hstep : Runs unit visited place step)
    (hnext : ∀ value, Runs unit visited place (next value)) :
    Runs unit visited place (step >>= next) := by
  intro walk
  exact Run.trans (hstep walk) (hnext (step.run walk).1 (step.run walk).2)

theorem bind_get {next : Walk → Walker β}
    (hnext : ∀ walk, Run unit visited place walk ((next walk).run walk).2) :
    Runs unit visited place (get >>= next) :=
  fun walk => hnext walk

theorem discard {step : Walker α} (hstep : Runs unit visited place step) :
    Runs unit visited place (discard step) :=
  fun walk => hstep walk

theorem forM {items : List β} {step : β → Walker Unit}
    (hstep : ∀ item, item ∈ items → Runs unit visited place (step item)) :
    Runs unit visited place (items.forM step) := by
  induction items with
  | nil => exact Runs.pure ()
  | cons item rest ih =>
      change Runs unit visited place (step item >>= fun _ => rest.forM step)
      apply Runs.bind
      · exact hstep item List.mem_cons_self
      · intro _
        exact ih fun other hother => hstep other (List.mem_cons_of_mem item hother)

theorem mapM {items : List β} {step : β → Walker α}
    (hstep : ∀ item, item ∈ items → Runs unit visited place (step item)) :
    Runs unit visited place (items.mapM step) := by
  induction items with
  | nil => exact Runs.pure []
  | cons item rest ih =>
      rw [List.mapM_cons]
      apply Runs.bind
      · exact hstep item List.mem_cons_self
      · intro _
        apply Runs.bind
        · exact ih fun other hother => hstep other (List.mem_cons_of_mem item hother)
        · intro _
          exact Runs.pure _

theorem foldlM {items : List β} {step : α → β → Walker α}
    (hstep : ∀ value item, item ∈ items → Runs unit visited place (step value item)) (start : α) :
    Runs unit visited place (items.foldlM step start) := by
  induction items generalizing start with
  | nil => exact Runs.pure start
  | cons item rest ih =>
      rw [List.foldlM_cons]
      apply Runs.bind
      · exact hstep start item List.mem_cons_self
      · intro value
        exact ih (fun next other hother => hstep next other (List.mem_cons_of_mem item hother))
          value

/-!
# Opening and closing
-/

theorem within (enclosing : Enclosing) {step : Walker α} (hstep : Runs unit visited place step) :
    Runs unit visited place (Walker.within enclosing step) :=
  fun _ => Run.within enclosing (hstep _)

theorem inBlock {step : Walker α} (hstep : Runs unit visited place step) :
    Runs unit visited place (Walker.inBlock step) :=
  fun _ => Run.inBlock .empty (hstep _)

theorem inSwitch (selector : Option SymbolId) {step : Walker α}
    (hstep : Runs unit visited place step) :
    Runs unit visited place (Walker.inSwitch selector step) :=
  fun _ => Run.inSwitch selector (hstep _)

theorem unheard {step : Walker α} (hstep : Runs unit visited place step) :
    Runs unit visited place (Walker.unheard step) :=
  fun _ => Run.unheard (hstep _)

theorem declare (nameSite : Option Site) {kind : SymbolKind} (type : Option SymbolId)
    (hkind : kind.isLocal = true) :
    Runs unit visited place (Walker.declare unit nameSite kind type) := by
  cases nameSite with
  | none => exact Runs.pure ()
  | some nameSite => exact fun walk => Run.declare nameSite type hkind

end Runs

/-!
# From place to place
-/

namespace Runs

variable {α : Type} {unit : WalkedUnit} {visited : Site → Walk → Walk → Prop}
  {parent : Option Node} {site : Site} {step : Walker α}

theorem child {child : Site} (hchild : child ∈ site.children)
    (hstep : Runs unit visited (.whole (some site.node) child) step) :
    Runs unit visited (.inside site) step :=
  fun walk => Run.child hchild (hstep walk)

theorem plain (hkind : site.kind.silences = false) (hstep : Runs unit visited (.inside site) step) :
    Runs unit visited (.whole parent site) step :=
  fun walk => Run.enter (fun h => by rw [hkind] at h; cases h) (hstep walk)

theorem part {child : Site} (hchild : child ∈ site.children)
    (hdirect : child.kind.silences = true → child.node.enteredFrom (some site.node) = true)
    (hstep : Runs unit visited (.inside child) step) : Runs unit visited (.inside site) step :=
  fun walk => Run.child hchild (Run.enter hdirect (hstep walk))

theorem underDeclaration (hkind : site.kind.silences = true)
    (hstep : Runs unit visited (.inside site) step) :
    Runs unit visited (.whole parent site) (Walker.underDeclaration site step) :=
  fun _ => Run.declaration hkind (hstep _)

theorem report {shape : UsageShape} {name : String} {target : Option SymbolId} (inImport : Bool)
    (hresolved : ∀ walk, Resolved unit parent site.node walk shape name target) :
    Runs unit visited (.whole parent site) (Walker.report unit site shape name target inImport) :=
  fun walk => Run.report inImport (hresolved walk)

theorem continues {continues : NodeKind → Bool} {link : Site}
    (hplain : ∀ kind, continues kind = true → kind.silences = false)
    (hlink : Site.Continues continues site link) (hstep : Runs unit visited (.inside link) step) :
    Runs unit visited (.inside site) step := by
  induction hlink with
  | refl => exact hstep
  | child hchild hkind _ ih => exact Runs.child hchild (plain (hplain _ hkind) (ih hstep))

end Runs

/-!
# Visiting
-/

def SoundVisit (unit : WalkedUnit) (visited : Site → Walk → Walk → Prop) (visit : Visit) :
    Prop :=
  ∀ parent site, Runs unit visited (.whole parent site) (visit site)

namespace Runs

variable {unit : WalkedUnit} {visited : Site → Walk → Walk → Prop} {visit : Visit} {site : Site}

theorem visitChild (hvisit : SoundVisit unit visited visit) {child : Site}
    (hchild : child ∈ site.children) :
    Runs unit visited (.inside site) (visit child) :=
  Runs.child hchild (hvisit (some site.node) child)

theorem visitAll (hvisit : SoundVisit unit visited visit) {sites : List Site}
    (hsites : ∀ child, child ∈ sites → child ∈ site.children) :
    Runs unit visited (.inside site) (Walker.visitAll visit sites) :=
  Runs.forM fun child hchild => Runs.discard (visitChild hvisit (hsites child hchild))

theorem visitEach (hvisit : SoundVisit unit visited visit) {sites : List Site}
    (hsites : ∀ child, child ∈ sites → child ∈ site.children) :
    Runs unit visited (.inside site) (Walker.visitEach visit sites) :=
  Runs.mapM fun child hchild =>
    Runs.bind (visitChild hvisit (hsites child hchild)) fun _ => Runs.pure _

theorem visitChildren (hvisit : SoundVisit unit visited visit) :
    Runs unit visited (.inside site) (Walker.visitChildren visit site) :=
  visitAll hvisit fun _ => Site.mem_children_of_mem_namedChildren

theorem visit? (hvisit : SoundVisit unit visited visit) {child : Option Site}
    (hchild : ∀ found, child = some found → found ∈ site.children) :
    Runs unit visited (.inside site) (Walker.visit? visit child) := by
  cases child with
  | none => exact Runs.pure Meaning.unknown
  | some found => exact visitChild hvisit (hchild found rfl)

theorem visitRole (hvisit : SoundVisit unit visited visit) (role : Role) :
    Runs unit visited (.inside site) (Walker.visit? visit (site.child? role)) :=
  visit? hvisit fun _ => Site.mem_children_of_child?

theorem visitPart (hvisit : SoundVisit unit visited visit) {child : Site}
    (hchild : child ∈ site.children)
    (hdirect : child.kind.silences = true → child.node.enteredFrom (some site.node) = true) :
    Runs unit visited (.inside site) (Walker.visitChildren visit child) :=
  Runs.part hchild hdirect (visitChildren hvisit)

end Runs

end RestrictedApi
