import RestrictedApi.Proofs.Edited
import RestrictedApi.Proofs.Edited.Linking
import RestrictedApi.Proofs.Renumbering
import RestrictedApi.Proofs.Suppression

/-!
# Two walks side by side

A walk over a tree goes side by side with a walk over the edited tree, from a table in which other
symbols follow those of the program.  The two find the same, up to the numbers of symbols and the
places of sites.  Where the edit has left a node out, the first walk passes through it without a
change, unless it goes too deep there; so if anything is left out, the two are compared only as long
as the first walk has not gone too deep.
-/

namespace RestrictedApi

/-- A unit of a program and, beside it, the same unit after the edit and with other numbers. -/
structure Mirror extends Twinning, Renumbering where
  unit : WalkedUnit
  sites : Std.TreeMap Path SymbolId
  sites_eq : ∀ {site twin}, twins site twin → sites[twin.path]? = unit.decls.sites[site.path]?
  simple : Prop
  sound : unit.decls.Sound simple base

def Mirror.twinUnit (m : Mirror) : WalkedUnit :=
  { m.unit with decls := m.unit.decls.withSites m.sites }

structure Reference.Alike (m : Mirror) (reference twin : Reference) : Prop where
  usage : twin.usage = m.usage reference.usage
  reported : ∃ site siteTwin, m.twins site siteTwin ∧ reference.path = site.path ∧
    twin.path = siteTwin.path ∧ reference.usage.location = site.node.locationIn m.unit.file

structure Binding.Alike (m : Mirror) (binding twin : Binding) : Prop where
  same : twin = { m.binding binding with path := twin.path }
  declared : ∃ site siteTwin, m.twins site siteTwin ∧ binding.path = site.path ∧
    twin.path = siteTwin.path

/-- All that a step can depend on. -/
def Walk.scope (walk : Walk) : Walk :=
  { walk with references := #[], bindings := #[] }

structure Walk.Alike (m : Mirror) (walk twin : Walk) : Prop where
  size : m.base.size ≤ walk.table.size
  scope : twin.scope = (m.walk walk).scope
  references : List.Forall₂ (Reference.Alike m) walk.references.toList twin.references.toList
  bindings : List.Forall₂ (Binding.Alike m) walk.bindings.toList twin.bindings.toList

theorem Walk.Alike.tooDeep_eq {m : Mirror} {walk twin : Walk} (h : walk.Alike m twin) :
    twin.tooDeep = walk.tooDeep :=
  (congrArg Walk.tooDeep h.scope :)

namespace Mirror

def walks (m : Mirror) : Comparison Walk where
  alike := Walk.Alike m
  live walk := m.lossy → walk.tooDeep = none

/-- Two steps do the same, and `image` is how what they return is renumbered. -/
abbrev Steps (m : Mirror) {α : Type} (image : α → α) (step step' : Walker α) : Prop :=
  m.walks.Steps (Maps image) step step'

/-- Two visits agree on twins, and the first one passes through what can be left out. -/
structure Visits (m : Mirror) (visit visit' : Visit) : Prop where
  twins : ∀ {site twin}, m.twins site twin → m.Steps m.meaning (visit site) (visit' twin)
  idle : ∀ {site : Site}, m.lossy → site.node.Idle → m.walks.Passes (visit site)

theorem Visits.omits {m : Mirror} {visit visit' : Visit} (h : m.Visits visit visit')
    {site child : Site} (homits : site.Omits m.lossy child) : m.walks.Passes (visit child) :=
  h.idle homits.allowed homits.idle

@[simp] theorem twinUnit_decls (m : Mirror) :
    m.twinUnit.decls = m.unit.decls.withSites m.sites := rfl

variable {m : Mirror} {α β γ : Type} {image : α → α}

theorem bind_get (look : Walk → γ) (hlook : ∀ walk, look walk.scope = look walk)
    {next next' : Walk → Walker α}
    (hnext : ∀ {walk walk' : Walk}, look walk' = look (m.walk walk) →
      m.Steps image (next walk) (next' walk')) :
    m.Steps image (get >>= next) (get >>= next') := by
  refine .bind_get (fun walk => (hnext rfl).live) fun {walk walk'} hwalk => hnext ?_
  rw [← hlook walk', hwalk.scope, hlook]

/-!
# Opening and closing
-/

/-- What changes the scope, and nothing else that is compared. -/
structure Changes (m : Mirror) (change change' : Walk → Walk) : Prop where
  scope : ∀ walk, (change' (m.walk walk)).scope = (m.walk (change walk)).scope
  kept : ∀ walk, (change walk).table = walk.table ∧ (change walk).references = walk.references ∧
    (change walk).bindings = walk.bindings ∧ (change walk).tooDeep = walk.tooDeep := by
      exact fun _ => ⟨rfl, rfl, rfl, rfl⟩
  kept' : ∀ walk, (change' walk).scope = (change' walk.scope).scope ∧
    (change' walk).references = walk.references ∧ (change' walk).bindings = walk.bindings := by
      exact fun _ => ⟨rfl, rfl, rfl⟩

theorem Changes.steps {change change' : Walk → Walk} (h : m.Changes change change') :
    m.Steps id (modify change) (modify change') := by
  constructor
  · exact fun walk hend hlossy => (h.kept walk).2.2.2.symm.trans (hend hlossy)
  · intro walk walk' hwalk _
    rcases h.kept walk with ⟨htable, hreferences, hbindings, _⟩
    rcases h.kept' walk' with ⟨hlocal, hreferences', hbindings'⟩
    have hscope : (change' walk').scope = (m.walk (change walk)).scope := by
      rw [hlocal, hwalk.scope, ← (h.kept' _).1, h.scope]
    have hsize : m.base.size ≤ (change walk).table.size := htable ▸ hwalk.size
    refine ⟨rfl, hsize, hscope, ?_, ?_⟩
    · exact hreferences.symm ▸ hreferences'.symm ▸ hwalk.references
    · exact hbindings.symm ▸ hbindings'.symm ▸ hwalk.bindings

section Between

variable {step step' : Walker α} (hstep : m.Steps image step step')

include hstep

theorem between {enter enter' leave leave' : Walk → Walk} (henter : m.Changes enter enter')
    (hleave : m.Changes leave leave') :
    m.Steps image
      (do
        modify enter
        let result ← step
        modify leave
        return result)
      (do
        modify enter'
        let result ← step'
        modify leave'
        return result) :=
  henter.steps.bind fun _ => hstep.bind fun value => hleave.steps.bind fun _ => .pure value

theorem within (enclosing : Enclosing) :
    m.Steps image (Walker.within enclosing step)
      (Walker.within (m.enclosing enclosing) step') := by
  refine between hstep { scope := fun _ => rfl } { scope := fun _ => ?_ }
  simp only [Walk.scope, Renumbering.walk, List.map_tail]

theorem inBlock : m.Steps image (Walker.inBlock step) (Walker.inBlock step') := by
  refine between hstep { scope := fun _ => rfl } { scope := fun _ => ?_ }
  simp only [Walk.scope, Renumbering.walk, List.map_tail]

theorem underDeclaration {site twin : Site} (h : m.twins site twin) :
    m.Steps image (Walker.underDeclaration site step) (Walker.underDeclaration twin step') := by
  unfold Walker.underDeclaration
  rw [h.suppressedWarnings_eq]
  exact between hstep { scope := fun _ => rfl } { scope := fun _ => rfl }

theorem inSwitch (selector : Option SymbolId) :
    m.Steps image (Walker.inSwitch selector step)
      (Walker.inSwitch (selector.map m.number) step') := by
  refine between hstep { scope := fun _ => rfl } { scope := fun _ => ?_ }
  simp only [Walk.scope, Renumbering.walk, List.map_tail]

theorem unheard : m.Steps image (Walker.unheard step) (Walker.unheard step') :=
  between hstep { scope := fun _ => rfl } { scope := fun _ => rfl }

end Between

/-!
# Appending
-/

variable {site twin : Site}

theorem report {shape : UsageShape} {name : String} {target target' : Option SymbolId}
    {inImport : Bool} (h : m.twins site twin) (htarget : target' = target.map m.number) :
    m.Steps id (Walker.report m.unit site shape name target inImport)
      (Walker.report m.twinUnit twin shape name target' inImport) := by
  have hlocation : twin.node.locationIn m.unit.file = site.node.locationIn m.unit.file := by
    rw [m.node h, Node.edited_eq]
    rfl
  have hrun : ∀ unit place target (walk : Walk),
      ((Walker.report unit place shape name target inImport).run walk).2 =
        if walk.muted > 0 then walk
        else { walk with references := walk.references.push {
          path := place.path
          usage := {
            shape, name, inImport, target
            location := place.node.locationIn unit.file, suppressions := walk.silenced } } } :=
    fun _ _ _ _ => rfl
  constructor
  · intro walk hend hlossy
    have hdeep := hend hlossy
    rw [hrun] at hdeep
    split at hdeep <;> exact hdeep
  · intro walk walk' hwalk _
    have hmuted : walk'.muted = walk.muted := (congrArg Walk.muted hwalk.scope :)
    have hsilenced : walk'.silenced = walk.silenced := (congrArg Walk.silenced hwalk.scope :)
    refine ⟨rfl, ?_⟩
    change Walk.Alike m ((Walker.report _ _ _ _ _ _).run walk).2
      ((Walker.report _ _ _ _ _ _).run walk').2
    rw [hrun, hrun]
    by_cases hquiet : walk.muted > 0
    · rw [if_pos hquiet, if_pos (by rwa [hmuted])]
      exact hwalk
    · rw [if_neg hquiet, if_neg (by rwa [hmuted])]
      refine { hwalk with references := ?_ }
      rw [Array.toList_push, Array.toList_push]
      refine List.rel_append hwalk.references (.cons ⟨?_, site, twin, h, rfl, rfl, rfl⟩ .nil)
      rw [hsilenced, show m.twinUnit.file = m.unit.file from rfl, hlocation, htarget]
      rfl

theorem insertSymbol (symbol : Symbol) :
    m.Steps m.number (Walker.insertSymbol symbol) (Walker.insertSymbol (m.symbol symbol)) := by
  refine ⟨fun _ hend => hend, fun {walk walk'} hwalk _ => ?_⟩
  have htable : walk'.table = m.table walk.table := (congrArg Walk.table hwalk.scope :)
  constructor
  · change walk'.table.size = m.number walk.table.size
    rw [htable, Renumbering.size_table hwalk.size]
    exact (if_neg (Nat.not_lt.mpr hwalk.size)).symm
  · have hinsert := congrArg
      (fun walk => { walk with table := walk.table.insert (m.symbol symbol) }) hwalk.scope
    refine { hwalk with size := ?_, scope := hinsert.trans ?_ }
    · change m.base.size ≤ (walk.table.insert symbol).size
      rw [SymbolTable.size_insert]
      exact Nat.le_succ_of_le hwalk.size
    · have hmoved := Renumbering.table_insert hwalk.size symbol
      exact congrArg (fun table => { (m.walk walk).scope with table }) hmoved.symm

theorem modifyBlock {change change' : Block → Block}
    (hchange : ∀ block, change' (m.block block) = m.block (change block)) :
    m.Steps id (modify fun walk => walk.modifyBlock change)
      (modify fun walk => walk.modifyBlock change') := by
  refine Changes.steps { scope := fun walk => ?_, kept := fun walk => ?_, kept' := fun walk => ?_ }
  · cases hblocks : walk.blocks with
    | nil => simp only [Walk.modifyBlock, Renumbering.walk, hblocks, List.map_nil]
    | cons block rest =>
        simp only [Walk.modifyBlock, Renumbering.walk, hblocks, List.map_cons, hchange]
  · unfold Walk.modifyBlock
    split <;> exact ⟨rfl, rfl, rfl, rfl⟩
  · rcases walk with ⟨_, _, _, _, _ | _, _, _, _, _⟩ <;> exact ⟨rfl, rfl, rfl⟩

theorem recordBinding (h : m.twins site twin) (symbol : SymbolId) :
    m.Steps id (Walker.recordBinding site symbol)
      (Walker.recordBinding twin (m.number symbol)) := by
  refine ⟨fun _ hend => hend, fun {walk walk'} hwalk _ => ⟨rfl, { hwalk with bindings := ?_ }⟩⟩
  change List.Forall₂ _ (walk.bindings.push _).toList (walk'.bindings.push _).toList
  rw [Array.toList_push, Array.toList_push]
  refine List.rel_append hwalk.bindings (.cons ⟨?_, site, twin, h, rfl, rfl⟩ .nil)
  have hsize : walk.references.size = walk'.references.size := hwalk.references.length_eq
  rw [h.text_eq, ← hsize]
  rfl

theorem declare {site twin : Option Site} (h : Option.Rel m.twins site twin) (kind : SymbolKind)
    (type : Option SymbolId) :
    m.Steps id (Walker.declare m.unit site kind type)
      (Walker.declare m.twinUnit twin kind (type.map m.number)) := by
  cases h with
  | none => exact .pure ()
  | some h =>
      unfold Walker.declare
      dsimp only
      rw [h.text_eq]
      refine bind_get Walk.thisType? (fun _ => rfl) fun hthis => ?_
      rw [hthis, Renumbering.thisType_walk]
      refine (insertSymbol _).bind fun symbol => ?_
      exact (recordBinding h symbol).bind fun _ => modifyBlock fun _ => rfl

/-!
# Visiting
-/

section Visiting

variable {visit visit' : Visit} (hvisit : m.Visits visit visit')

include hvisit

theorem visitAll {sites twins : List Site} {idle : Site → Prop}
    (h : Thinned m.twins idle sites twins)
    (hidle : ∀ {site}, idle site → m.lossy ∧ site.node.Idle) :
    m.Steps id (Walker.visitAll visit sites) (Walker.visitAll visit' twins) :=
  .forM h (fun hsite => (hvisit.twins hsite).discard) fun hsite =>
    (hvisit.idle (hidle hsite).1 (hidle hsite).2).discard

theorem visitEach {sites twins : List Site} {idle : Site → Prop}
    (h : Thinned m.twins idle sites twins)
    (hidle : ∀ {site}, idle site → m.lossy ∧ site.node.Idle) :
    m.walks.Steps
      (Thinned (fun entry entry' => m.twins entry.1 entry'.1 ∧ entry'.2 = m.meaning entry.2)
        fun entry => idle entry.1)
      (Walker.visitEach visit sites) (Walker.visitEach visit' twins) :=
  .mapM h (fun hsite => (hvisit.twins hsite).bind fun _ => .pure_rel ⟨hsite, rfl⟩)
    fun hsite =>
      ⟨(hvisit.idle (hidle hsite).1 (hidle hsite).2).bind fun _ => .pure _, fun _ => hsite⟩

theorem visitEach_all {sites twins : List Site} (h : List.Forall₂ m.twins sites twins) :
    m.walks.Steps
      (List.Forall₂ fun entry entry' => m.twins entry.1 entry'.1 ∧ entry'.2 = m.meaning entry.2)
      (Walker.visitEach visit sites) (Walker.visitEach visit' twins) :=
  (visitEach hvisit (.of_forall₂ h) False.elim).imp fun hvisited => hvisited.forall₂ id

theorem visitChildren (h : m.twins site twin) :
    m.Steps id (Walker.visitChildren visit site) (Walker.visitChildren visit' twin) :=
  visitAll hvisit h.namedChildren fun homits => ⟨homits.allowed, homits.idle⟩

theorem visitExcept (h : m.twins site twin) {excluded excludedTwins : List (Option Site)}
    (hexcluded : List.Forall₂ (Option.Rel m.twins) excluded excludedTwins) :
    m.Steps id (Walker.visitAll visit (site.childrenExcept excluded))
      (Walker.visitAll visit' (twin.childrenExcept excludedTwins)) :=
  visitAll hvisit (h.childrenExcept hexcluded) fun homits => ⟨homits.allowed, homits.idle⟩

theorem visit? {found found' : Option Site} (h : Option.Rel m.twins found found') :
    m.Steps m.meaning (Walker.visit? visit found) (Walker.visit? visit' found') := by
  cases h with
  | none => exact .pure Meaning.unknown
  | some h => exact hvisit.twins h

theorem visitRole (h : m.twins site twin) (role : Role) :
    m.Steps m.meaning (Walker.visit? visit (site.child? role))
      (Walker.visit? visit' (twin.child? role)) :=
  visit? hvisit (h.child? role)

end Visiting

theorem simpleType? (name : String) :
    m.Steps (Option.map m.number) (Walker.simpleType? m.unit name)
      (Walker.simpleType? m.twinUnit name) := by
  refine bind_get (Walk.view · m.unit.unit) (fun _ => rfl) fun hview => ?_
  rw [show m.twinUnit.unit = m.unit.unit from rfl, hview, twinUnit_decls,
    Declarations.withSites_simpleType?, Renumbering.view_walk, Renumbering.simpleType_view m.sound]
  exact .pure _

end Mirror

end RestrictedApi
