import RestrictedApi.Proofs.Grammar
import RestrictedApi.Proofs.Run

/-!
# Tours of a tree

A tour is a run that says more about where it goes.  It opens a block exactly at the sites that open
one, it declares names only at declared names, and it knows whether it is inside an import.  If
every call has a name, it enters every site at most once, through distinct children.  On a tree that
keeps to the whole grammar, it reports a site or enters it, not both, and it visits no declared
name.
-/

namespace RestrictedApi

/-- Two states agree on the names in scope and on everything that is only ever appended. -/
structure Walk.SameScopes (first second : Walk) : Prop where
  table : first.table = second.table
  references : first.references = second.references
  bindings : first.bindings = second.bindings
  blocks : first.blocks = second.blocks

/-- What a reference in an import is: a segment of a name, and the first one names a package. -/
structure Imported (unit : WalkedUnit) (parent : Option Node) (node : Node) (shape : UsageShape)
    (name : String) (target : Option SymbolId) : Prop where
  token : node.isNameToken parent = true
  text : name = node.text
  package : shape = .identifier → target = unit.decls.package? name

/-- Where a tour goes: to a site with its parent, or to some of the children of a site. -/
inductive Stop where
  | whole (parent : Option Site) (site : Site)
  | inside (site : Site) (parts : List Site)

/-- The changes of state of a tour, inside an import or not. -/
inductive Tour (unit : WalkedUnit) (shape : Shape) :
    (inImport : Bool) → Stop → Walk → Walk → Prop where
  | refl (inImport : Bool) (stop : Stop) (walk : Walk) : Tour unit shape inImport stop walk walk
  | trans {inImport : Bool} {site : Site} {parts more : List Site} {first second third : Walk} :
      Tour unit shape inImport (.inside site parts) first second →
      Tour unit shape inImport (.inside site more) second third →
      Tour unit shape inImport (.inside site (parts ++ more)) first third
  /-- Parts of the state that do not matter for names change before and after. -/
  | aside {inImport : Bool} {stop : Stop} {first first' second second' : Walk} :
      first.SameScopes first' →
      Tour unit shape inImport stop first' second' →
      second'.SameScopes second →
      Tour unit shape inImport stop first second
  | child {inImport : Bool} {site child : Site} {first second : Walk} :
      child ∈ site.children →
      (shape = .whole → child ∉ site.declaredNames) →
      Tour unit shape inImport (.whole (some site) child) first second →
      Tour unit shape inImport (.inside site [child]) first second
  | enter {inImport : Bool} {parent : Option Site} {site : Site} {parts : List Site}
      {first second : Walk} :
      site.opensBlock parent = false →
      site.kind ≠ .importDeclaration →
      (shape ≠ .loose → parts.Nodup) →
      Tour unit shape inImport (.inside site parts) first second →
      Tour unit shape inImport (.whole parent site) first second
  | enterImport {inImport : Bool} {parent : Option Site} {site : Site} {parts : List Site}
      {first second : Walk} :
      site.opensBlock parent = false →
      site.kind = .importDeclaration →
      (shape ≠ .loose → parts.Nodup) →
      Tour unit shape true (.inside site parts) first second →
      Tour unit shape inImport (.whole parent site) first second
  | block {inImport : Bool} {parent : Option Site} {site : Site} {parts : List Site}
      {first second : Walk} :
      site.opensBlock parent = true →
      site.kind ≠ .importDeclaration →
      (shape ≠ .loose → parts.Nodup) →
      Tour unit shape inImport (.inside site parts) { first with blocks := {} :: first.blocks }
        second →
      Tour unit shape inImport (.whole parent site) first
        { second with blocks := second.blocks.tail }
  | report {inImport : Bool} {parent : Option Site} {site : Site} {walk : Walk}
      {usage : UsageShape} {name : String} {target : Option SymbolId} :
      Resolved unit (parent.map Site.node) site.node walk usage name target →
      (inImport = true →
        Imported unit (parent.map Site.node) site.node usage name target) →
      Tour unit shape inImport (.whole parent site) walk
        ((Walker.report unit site usage name target inImport).run walk).2
  /-- A child is reported although the tour may come to it otherwise, too. -/
  | remark {inImport : Bool} {site child : Site} {walk : Walk} {usage : UsageShape} {name : String}
      {target : Option SymbolId} :
      shape ≠ .whole →
      child ∈ site.children →
      Resolved unit (some site.node) child.node walk usage name target →
      (inImport = true → Imported unit (some site.node) child.node usage name target) →
      Tour unit shape inImport (.inside site []) walk
        ((Walker.report unit child usage name target inImport).run walk).2
  | declare {inImport : Bool} {site nameSite : Site} {walk : Walk} {kind : SymbolKind}
      (type : Option SymbolId) :
      nameSite ∈ site.declaredNames →
      kind.isLocal = true →
      Tour unit shape inImport (.inside site [nameSite]) walk
        ((Walker.declare unit (some nameSite) kind type).run walk).2
  | typeParameter {inImport : Bool} {site : Site} {walk : Walk} {name : String}
      {id member : SymbolId} {decl : MemberDecl} :
      unit.decls.members[member]? = some decl →
      (name, id) ∈ decl.typeParameters →
      Tour unit shape inImport (.inside site []) walk
        ((Walker.declareTypeParameter name id).run walk).2
  | localTypeParameter {inImport : Bool} {site : Site} {walk : Walk} (name : String) :
      Tour unit shape inImport (.inside site []) walk
        ((Walker.declareLocalTypeParameter unit name).run walk).2

def Tours {α : Type} (unit : WalkedUnit) (shape : Shape) (inImport : Bool) (stop : Stop)
    (step : Walker α) : Prop :=
  ∀ walk, Tour unit shape inImport stop walk (step.run walk).2

namespace Tours

variable {α β : Type} {unit : WalkedUnit} {shape : Shape} {inImport : Bool} {stop : Stop}
variable {parent : Option Site} {site : Site} {parts more : List Site}

/-!
# Composing steps
-/

theorem pure (value : α) : Tours unit shape inImport stop (pure value) :=
  fun walk => Tour.refl inImport stop walk

theorem bind {step : Walker α} {next : α → Walker β}
    (hstep : Tours unit shape inImport (.inside site parts) step)
    (hnext : ∀ value, Tours unit shape inImport (.inside site more) (next value)) :
    Tours unit shape inImport (.inside site (parts ++ more)) (step >>= next) :=
  fun walk => Tour.trans (hstep walk) (hnext (step.run walk).1 (step.run walk).2)

theorem map {step : Walker α} (hstep : Tours unit shape inImport stop step) (result : α → β) :
    Tours unit shape inImport stop (step >>= fun value => Pure.pure (result value)) :=
  fun walk => hstep walk

theorem bind_get {next : Walk → Walker β}
    (hnext : ∀ walk, Tour unit shape inImport stop walk ((next walk).run walk).2) :
    Tours unit shape inImport stop (get >>= next) :=
  fun walk => hnext walk

theorem bind_read {step : Walker α} {next : α → Walker β}
    (hread : ∀ walk, (step.run walk).2 = walk)
    (hnext : ∀ value, Tours unit shape inImport stop (next value)) :
    Tours unit shape inImport stop (step >>= next) := by
  intro walk
  have htour := hnext (step.run walk).1 (step.run walk).2
  rw [hread walk] at htour
  change Tour unit shape inImport stop walk ((next (step.run walk).1).run (step.run walk).2).2
  rw [hread walk]
  exact htour

theorem discard {step : Walker α} (hstep : Tours unit shape inImport stop step) :
    Tours unit shape inImport stop (discard step) :=
  fun walk => hstep walk

theorem forM {items : List β} {step : β → Walker Unit}
    (hstep : ∀ item, item ∈ items → Tours unit shape inImport (.inside site []) (step item)) :
    Tours unit shape inImport (.inside site []) (items.forM step) := by
  induction items with
  | nil => exact Tours.pure ()
  | cons item rest ih =>
      change Tours unit shape inImport (.inside site ([] ++ []))
        (step item >>= fun _ => rest.forM step)
      apply Tours.bind (hstep item List.mem_cons_self)
      intro _
      exact ih fun other hother => hstep other (List.mem_cons_of_mem item hother)

theorem forSites {sites : List Site} {step : Site → Walker Unit}
    (hstep : ∀ child, child ∈ sites →
      Tours unit shape inImport (.inside site [child]) (step child)) :
    Tours unit shape inImport (.inside site sites) (sites.forM step) := by
  induction sites with
  | nil => exact Tours.pure ()
  | cons child rest ih =>
      change Tours unit shape inImport (.inside site ([child] ++ rest))
        (step child >>= fun _ => rest.forM step)
      apply Tours.bind (hstep child List.mem_cons_self)
      intro _
      exact ih fun other hother => hstep other (List.mem_cons_of_mem child hother)

theorem mapSites {sites : List Site} {step : Site → Walker α}
    (hstep : ∀ child, child ∈ sites →
      Tours unit shape inImport (.inside site [child]) (step child)) :
    Tours unit shape inImport (.inside site sites) (sites.mapM step) := by
  induction sites with
  | nil => exact Tours.pure []
  | cons child rest ih =>
      rw [List.mapM_cons]
      change Tours unit shape inImport (.inside site ([child] ++ rest)) _
      apply Tours.bind (hstep child List.mem_cons_self)
      intro value
      exact Tours.map (ih fun other hother => hstep other (List.mem_cons_of_mem child hother)) _

theorem foldSites {sites : List Site} {step : α → Site → Walker α}
    (hstep : ∀ value child, child ∈ sites →
      Tours unit shape inImport (.inside site [child]) (step value child)) (start : α) :
    Tours unit shape inImport (.inside site sites) (sites.foldlM step start) := by
  induction sites generalizing start with
  | nil => exact Tours.pure start
  | cons child rest ih =>
      rw [List.foldlM_cons]
      change Tours unit shape inImport (.inside site ([child] ++ rest)) _
      apply Tours.bind (hstep start child List.mem_cons_self)
      exact ih fun value other hother => hstep value other (List.mem_cons_of_mem child hother)

/-!
# Opening and closing
-/

theorem aside {first last : Walk → Walk} {step : Walker α}
    (hfirst : ∀ walk : Walk, walk.SameScopes (first walk))
    (hlast : ∀ walk : Walk, walk.SameScopes (last walk))
    (hstep : Tours unit shape inImport stop step) :
    Tours unit shape inImport stop (do
      modify first
      let result ← step
      modify last
      return result) :=
  fun walk => Tour.aside (hfirst walk) (hstep (first walk)) (hlast _)

theorem within (enclosing : Enclosing) {step : Walker α}
    (hstep : Tours unit shape inImport stop step) :
    Tours unit shape inImport stop (Walker.within enclosing step) :=
  aside (fun _ => ⟨rfl, rfl, rfl, rfl⟩) (fun _ => ⟨rfl, rfl, rfl, rfl⟩) hstep

theorem underDeclaration (declaration : Site) {step : Walker α}
    (hstep : Tours unit shape inImport stop step) :
    Tours unit shape inImport stop (Walker.underDeclaration declaration step) :=
  aside (fun _ => ⟨rfl, rfl, rfl, rfl⟩) (fun _ => ⟨rfl, rfl, rfl, rfl⟩) hstep

theorem inSwitch (selector : Option SymbolId) {step : Walker α}
    (hstep : Tours unit shape inImport stop step) :
    Tours unit shape inImport stop (Walker.inSwitch selector step) :=
  aside (fun _ => ⟨rfl, rfl, rfl, rfl⟩) (fun _ => ⟨rfl, rfl, rfl, rfl⟩) hstep

theorem unheard {step : Walker α} (hstep : Tours unit shape inImport stop step) :
    Tours unit shape inImport stop (Walker.unheard step) :=
  aside (fun _ => ⟨rfl, rfl, rfl, rfl⟩) (fun _ => ⟨rfl, rfl, rfl, rfl⟩) hstep

theorem enterIf {step : Walker α} (hstep : Tours unit shape inImport (.inside site parts) step)
    (hparts : shape ≠ .loose → parts.Nodup) (hkind : site.kind.opensNothing = true)
    (hbody : site.isAnonymousBody parent = false) :
    Tours unit shape inImport (.whole parent site) step :=
  fun walk => Tour.enter (Site.opensBlock_eq_false hkind hbody)
    (NodeKind.ne_import_of_opensNothing hkind) hparts (hstep walk)

theorem enterNode {step : Walker α} (hstep : Tours unit shape inImport (.inside site parts) step)
    (hparts : parts.Nodup) (hkind : site.kind.opensNothing = true)
    (hbody : site.isAnonymousBody parent = false) :
    Tours unit shape inImport (.whole parent site) step :=
  enterIf hstep (fun _ => hparts) hkind hbody

theorem enter {step : Walker α} (hstep : Tours unit shape inImport (.inside site parts) step)
    (hparts : parts.Nodup) (hkind : site.kind.isPlain = true)
    (hbody : site.isAnonymousBody parent = false) :
    Tours unit shape inImport (.whole parent site) step :=
  enterNode hstep hparts (NodeKind.opensNothing_of_isPlain hkind) hbody

theorem inBlock {step : Walker α} (hstep : Tours unit shape inImport (.inside site parts) step)
    (hparts : parts.Nodup) (hblock : site.opensBlock parent = true)
    (himport : site.kind ≠ .importDeclaration) :
    Tours unit shape inImport (.whole parent site) (Walker.inBlock step) :=
  fun _ => Tour.block hblock himport (fun _ => hparts) (hstep _)

/-!
# Reporting and declaring
-/

theorem report {usage : UsageShape} {name : String} {target : Option SymbolId}
    (hresolved : ∀ walk, Resolved unit (parent.map Site.node) site.node walk usage name target)
    (himport : inImport = true →
      Imported unit (parent.map Site.node) site.node usage name target) :
    Tours unit shape inImport (.whole parent site)
      (Walker.report unit site usage name target inImport) :=
  fun walk => Tour.report (hresolved walk) himport

theorem declare {nameSite : Option Site} {kind : SymbolKind} (type : Option SymbolId)
    (hname : ∀ found, nameSite = some found → found ∈ site.declaredNames)
    (hkind : kind.isLocal = true) :
    Tours unit shape inImport (.inside site nameSite.toList)
      (Walker.declare unit nameSite kind type) := by
  cases nameSite with
  | none => exact Tours.pure ()
  | some found => exact fun walk => Tour.declare type (hname found rfl) hkind

theorem child {child : Site} {step : Walker α} (hchild : child ∈ site.children)
    (hundeclared : child ∉ site.declaredNames)
    (hstep : Tours unit shape inImport (.whole (some site) child) step) :
    Tours unit shape inImport (.inside site [child]) step :=
  fun walk => Tour.child hchild (fun _ => hundeclared) (hstep walk)

theorem part {child : Site} {step : Walker α} (hchild : site.MayVisit shape child)
    (hstep : Tours unit shape inImport (.whole (some site) child) step) :
    Tours unit shape inImport (.inside site [child]) step :=
  fun walk => Tour.child hchild.mem hchild.undeclared (hstep walk)

end Tours

/-!
# Visiting
-/

def TouringVisit (unit : WalkedUnit) (shape : Shape) (visit : Visit) : Prop :=
  ∀ parent site, site.Visitable shape parent →
    Tours unit shape false (.whole parent site) (visit site)

namespace Tours

variable {unit : WalkedUnit} {shape : Shape} {visit : Visit} {parent : Option Site} {site : Site}

theorem visitChild (hvisit : TouringVisit unit shape visit) {child : Site}
    (hchild : site.MayVisit shape child) :
    Tours unit shape false (.inside site [child]) (visit child) :=
  Tours.part hchild (hvisit (some site) child hchild.visitable)

theorem visitAll (hvisit : TouringVisit unit shape visit) {sites : List Site}
    (hsites : ∀ child, child ∈ sites → site.MayVisit shape child) :
    Tours unit shape false (.inside site sites) (Walker.visitAll visit sites) :=
  Tours.forSites fun child hchild => Tours.discard (visitChild hvisit (hsites child hchild))

theorem visitEach (hvisit : TouringVisit unit shape visit) {sites : List Site}
    (hsites : ∀ child, child ∈ sites → site.MayVisit shape child) :
    Tours unit shape false (.inside site sites) (Walker.visitEach visit sites) :=
  Tours.mapSites fun child hchild => Tours.map (visitChild hvisit (hsites child hchild)) _

theorem visit? (hvisit : TouringVisit unit shape visit) {child : Option Site}
    (hchild : ∀ found, child = some found → site.MayVisit shape found) :
    Tours unit shape false (.inside site child.toList) (Walker.visit? visit child) := by
  cases child with
  | none => exact Tours.pure Meaning.unknown
  | some found => exact visitChild hvisit (hchild found rfl)

theorem visitChildren (hvisit : TouringVisit unit shape visit)
    (hsite : site.Grammatical shape parent) (hkind : site.kind.visitsAll = true) :
    Tours unit shape false (.inside site site.namedChildren) (Walker.visitChildren visit site) :=
  visitAll hvisit fun _ hchild =>
    hsite.mayVisit_of_visitsAll hkind (Site.mem_children_of_mem_namedChildren hchild)

theorem visitRole (hvisit : TouringVisit unit shape visit) (hsite : site.Grammatical shape parent)
    (hkind : site.kind.visitsAll = true) (role : Role) :
    Tours unit shape false (.inside site (site.child? role).toList)
      (Walker.visit? visit (site.child? role)) :=
  visit? hvisit fun _ hchild =>
    hsite.mayVisit_of_visitsAll hkind (Site.mem_children_of_child? hchild)

end Tours

end RestrictedApi
