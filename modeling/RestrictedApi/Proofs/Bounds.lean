import RestrictedApi.Extraction
import RestrictedApi.Proofs.Linked
import RestrictedApi.Proofs.Run

/-!
# Numbers in range

The symbols that a walk appends are owned by the type around them, if that is known.  This may be a
type parameter that the same walk has appended, so the numbers of the types around, of the type
parameters in scope and of the types that nodes denote have to be followed through the walk: all of
them are numbers of symbols that are already there.
-/

namespace RestrictedApi

/-- Every owner comes before what it owns. -/
def SymbolTable.Ordered (table : SymbolTable) : Prop :=
  ∀ id symbol owner, table.get? id = some symbol → symbol.owner = some owner → owner < id

theorem SymbolTable.Ordered.insert {table : SymbolTable} (h : table.Ordered) {symbol : Symbol}
    (howner : ∀ owner, symbol.owner = some owner → owner < table.size) :
    (table.insert symbol).Ordered := by
  intro id found owner hfound hown
  rw [SymbolTable.get?_insert] at hfound
  by_cases hid : id = table.size
  · rw [if_pos hid] at hfound
    rw [hid]
    apply howner
    rw [Option.some.inj hfound]
    exact hown
  · rw [if_neg hid] at hfound
    exact h id found owner hfound hown

/-- The numbers that a walk has at hand are those of symbols. -/
structure Walk.InRange (decls : Declarations) (walk : Walk) : Prop where
  decls : decls.Sound False walk.table
  ordered : walk.table.Ordered
  enclosing : ∀ {around : Enclosing} {id : SymbolId}, around ∈ walk.enclosing →
    around.type? = some id → id < walk.table.size
  parameters : ∀ {block : Block}, block ∈ walk.blocks → block.typeParameters.Sound walk.table

namespace Walk.InRange

variable {decls : Declarations} {walk : Walk}

theorem thisType_lt (h : walk.InRange decls) {id : SymbolId} (hid : walk.thisType? = some id) :
    id < walk.table.size := by
  rcases Option.bind_eq_some_iff.mp hid with ⟨around, haround, htype⟩
  exact h.enclosing (List.mem_of_head? haround) htype

theorem simpleType_lt (h : walk.InRange decls) {unit : Nat} {name : String} {id : SymbolId}
    (hid : decls.simpleType? (walk.view unit) name = some id) : id < walk.table.size := by
  have hview : (walk.view unit).parameters.Sound walk.table := by
    intro parameter number hmem
    rcases List.mem_flatMap.mp hmem with ⟨block, hblock, hentry⟩
    exact h.parameters hblock parameter number hentry
  rcases h.decls.simpleType hview hid with ⟨_, hdeclares, _⟩
  exact hdeclares.lt_size

theorem insert (h : walk.InRange decls) {symbol : Symbol}
    (howner : ∀ owner, symbol.owner = some owner → owner < walk.table.size) :
    Walk.InRange decls { walk with table := walk.table.insert symbol } := by
  have hextends := SymbolTable.Extends.insert walk.table symbol
  constructor
  · exact h.decls.extend hextends
  · exact h.ordered.insert howner
  · exact fun haround htype => hextends.lt_size (h.enclosing haround htype)
  · exact fun hblock => (h.parameters hblock).extend hextends

theorem ofBindings (h : walk.InRange decls) (bindings : Array Binding) :
    Walk.InRange decls { walk with bindings } :=
  { h with }

theorem modifyBlock (h : walk.InRange decls) {change : Block → Block}
    (hchange : ∀ block, block.typeParameters.Sound walk.table →
      (change block).typeParameters.Sound walk.table) :
    (walk.modifyBlock change).InRange decls := by
  unfold Walk.modifyBlock
  cases hblocks : walk.blocks with
  | nil => exact h
  | cons first rest =>
      refine { h with parameters := ?_ }
      intro block hblock
      rcases List.mem_cons.mp hblock with heq | hrest
      · rw [heq]
        exact hchange first (h.parameters (hblocks ▸ List.mem_cons_self))
      · exact h.parameters (hblocks ▸ List.mem_cons_of_mem first hrest)

end Walk.InRange

/-!
# Steps

`Bounded unit size types step` says that from any state in range with at least `size` symbols the
step leads to a state in range, drops no symbol, and returns types that are in range.  Which types a
result holds is told by `types`.
-/

def Bounded {α : Type} (unit : WalkedUnit) (size : Nat) (types : α → List SymbolId)
    (step : Walker α) : Prop :=
  ∀ walk, walk.InRange unit.decls → size ≤ walk.table.size →
    (step.run walk).2.InRange unit.decls ∧ walk.table.size ≤ (step.run walk).2.table.size ∧
      ∀ id, id ∈ types (step.run walk).1 → id < (step.run walk).2.table.size

/-- A result of which no types are followed. -/
def noTypes {α : Type} (_ : α) : List SymbolId := []

/-- The type that a name denotes.  That of a value is not followed. -/
def Meaning.types (meaning : Meaning) : List SymbolId :=
  meaning.type?.toList

theorem Meaning.types_ofType (type : Option SymbolId) : (Meaning.ofType? type).types = [] := by
  cases type <;> rfl

def Enclosing.types (around : Enclosing) : List SymbolId :=
  around.type?.toList

def visitedTypes (visited : List (Site × Meaning)) : List SymbolId :=
  visited.flatMap fun entry => entry.2.types

namespace Bounded

variable {α β : Type} {unit : WalkedUnit} {size : Nat}
variable {types : α → List SymbolId} {final : β → List SymbolId}

/-!
# Composing steps
-/

theorem pure {value : α} (hvalue : ∀ id, id ∈ types value → id < size) :
    Bounded unit size types (pure value) :=
  fun _ hwalk hsize =>
    ⟨hwalk, Nat.le_refl _, fun id hid => Nat.lt_of_lt_of_le (hvalue id hid) hsize⟩

theorem pure_nothing {value : α} (hvalue : types value = []) :
    Bounded unit size types (Pure.pure value) := by
  apply Bounded.pure
  intro id hid
  rw [hvalue] at hid
  cases hid

theorem skip (value : α) : Bounded unit size noTypes (Pure.pure value) :=
  pure_nothing rfl

theorem bind {step : Walker α} {next : α → Walker β} (hstep : Bounded unit size types step)
    (hnext : ∀ value larger, size ≤ larger → (∀ id, id ∈ types value → id < larger) →
      Bounded unit larger final (next value)) : Bounded unit size final (step >>= next) := by
  intro walk hwalk hsize
  rcases hstep walk hwalk hsize with ⟨hmiddle, hgrows, htypes⟩
  rcases hnext (step.run walk).1 (step.run walk).2.table.size (Nat.le_trans hsize hgrows) htypes
    (step.run walk).2 hmiddle (Nat.le_refl _) with ⟨hlast, hgrows', htypes'⟩
  exact ⟨hlast, Nat.le_trans hgrows hgrows', htypes'⟩

theorem andThen {step : Walker α} {next : α → Walker β} (hstep : Bounded unit size types step)
    (hnext : ∀ value, Bounded unit size final (next value)) :
    Bounded unit size final (step >>= next) :=
  bind hstep fun value _ hlarger _ walk hwalk hsize =>
    hnext value walk hwalk (Nat.le_trans hlarger hsize)

theorem bind_get {next : Walk → Walker β}
    (hnext : ∀ walk, walk.InRange unit.decls → size ≤ walk.table.size →
      Bounded unit walk.table.size final (next walk)) :
    Bounded unit size final (get >>= next) :=
  fun walk hwalk hsize => hnext walk hwalk hsize walk hwalk (Nat.le_refl _)

theorem forget {step : Walker α} (hstep : Bounded unit size types step) :
    Bounded unit size noTypes step := by
  intro walk hwalk hsize
  rcases hstep walk hwalk hsize with ⟨hlast, hgrows, _⟩
  exact ⟨hlast, hgrows, fun _ hid => by cases hid⟩

theorem discard {step : Walker α} (hstep : Bounded unit size types step) :
    Bounded unit size noTypes (discard step) :=
  hstep.forget

theorem forM {items : List β} {step : β → Walker Unit}
    (hstep : ∀ item, item ∈ items → Bounded unit size noTypes (step item)) :
    Bounded unit size noTypes (items.forM step) := by
  induction items with
  | nil => exact skip ()
  | cons item rest ih =>
      change Bounded unit size noTypes (step item >>= fun _ => rest.forM step)
      apply andThen (hstep item List.mem_cons_self)
      intro _
      exact ih fun other hother => hstep other (List.mem_cons_of_mem item hother)

theorem foldlM {items : List β} {step : α → β → Walker α}
    (hstep : ∀ value item, Bounded unit size noTypes (step value item)) (start : α) :
    Bounded unit size noTypes (items.foldlM step start) := by
  induction items generalizing start with
  | nil => exact skip start
  | cons item rest ih =>
      rw [List.foldlM_cons]
      exact andThen (hstep start item) ih

/-!
# Opening and closing
-/

theorem ofModify {change : Walk → Walk}
    (hchange : ∀ walk, walk.InRange unit.decls → size ≤ walk.table.size →
      (change walk).InRange unit.decls ∧ (change walk).table = walk.table) :
    Bounded unit size noTypes (modify change) := by
  intro walk hwalk hsize
  rcases hchange walk hwalk hsize with ⟨hlast, htable⟩
  refine ⟨hlast, ?_, fun _ hid => by cases hid⟩
  exact Nat.le_of_eq (congrArg SymbolTable.size htable.symm)

theorem bracket {first last : Walk → Walk} {step : Walker α}
    (hfirst : Bounded unit size noTypes (modify first))
    (hlast : ∀ larger, Bounded unit larger noTypes (modify last))
    (hstep : Bounded unit size types step) :
    Bounded unit size types (do
      modify first
      let result ← step
      modify last
      return result) := by
  apply andThen hfirst
  intro _
  apply bind hstep
  intro result larger _ hresult
  apply andThen (hlast larger)
  intro _
  exact Bounded.pure hresult

theorem within (around : Enclosing) (haround : ∀ id, id ∈ around.types → id < size)
    {step : Walker α} (hstep : Bounded unit size types step) :
    Bounded unit size types (Walker.within around step) := by
  refine bracket (ofModify ?_) (fun _ => ofModify ?_) hstep
  · intro walk hwalk hsize
    refine ⟨{ hwalk with enclosing := ?_ }, rfl⟩
    intro other id hother htype
    rcases List.mem_cons.mp hother with heq | hrest
    · rw [heq] at htype
      exact Nat.lt_of_lt_of_le (haround id (Option.mem_toList.mpr htype)) hsize
    · exact hwalk.enclosing hrest htype
  · intro walk hwalk _
    exact ⟨{ hwalk with
      enclosing := fun hother => hwalk.enclosing (List.mem_of_mem_tail hother) }, rfl⟩

theorem inBlock {step : Walker α} (hstep : Bounded unit size types step) :
    Bounded unit size types (Walker.inBlock step) := by
  refine bracket (ofModify ?_) (fun _ => ofModify ?_) hstep
  · intro walk hwalk _
    refine ⟨{ hwalk with parameters := ?_ }, rfl⟩
    intro block hblock
    rcases List.mem_cons.mp hblock with heq | hrest
    · rw [heq]
      exact Declarations.Sound.noParameters
    · exact hwalk.parameters hrest
  · intro walk hwalk _
    exact ⟨{ hwalk with
      parameters := fun hblock => hwalk.parameters (List.mem_of_mem_tail hblock) }, rfl⟩

theorem underDeclaration (site : Site) {step : Walker α} (hstep : Bounded unit size types step) :
    Bounded unit size types (Walker.underDeclaration site step) :=
  bracket (ofModify fun _ hwalk _ => ⟨{ hwalk with }, rfl⟩)
    (fun _ => ofModify fun _ hwalk _ => ⟨{ hwalk with }, rfl⟩) hstep

theorem inSwitch (selector : Option SymbolId) {step : Walker α}
    (hstep : Bounded unit size types step) :
    Bounded unit size types (Walker.inSwitch selector step) :=
  bracket (ofModify fun _ hwalk _ => ⟨{ hwalk with }, rfl⟩)
    (fun _ => ofModify fun _ hwalk _ => ⟨{ hwalk with }, rfl⟩) hstep

theorem unheard {step : Walker α} (hstep : Bounded unit size types step) :
    Bounded unit size types (Walker.unheard step) :=
  bracket (ofModify fun _ hwalk _ => ⟨{ hwalk with }, rfl⟩)
    (fun _ => ofModify fun _ hwalk _ => ⟨{ hwalk with }, rfl⟩) hstep

/-!
# Appending
-/

theorem report (site : Site) (shape : UsageShape) (name : String) (target : Option SymbolId)
    (inImport : Bool) :
    Bounded unit size noTypes (Walker.report unit site shape name target inImport) := by
  apply ofModify
  intro walk hwalk _
  split
  · exact ⟨hwalk, rfl⟩
  · exact ⟨{ hwalk with }, rfl⟩

theorem declare (nameSite : Option Site) (kind : SymbolKind) (type : Option SymbolId) :
    Bounded unit size noTypes (Walker.declare unit nameSite kind type) := by
  cases nameSite with
  | none => exact skip ()
  | some site =>
      intro walk hwalk _
      refine ⟨?_, ?_, fun _ hid => by cases hid⟩
      · refine Walk.InRange.modifyBlock (Walk.InRange.ofBindings (hwalk.insert ?_) _) ?_
        · exact fun owner howner => hwalk.thisType_lt howner
        · exact fun _ hblock => hblock
      · change walk.table.size ≤ (Walk.modifyBlock _ _).table.size
        rw [Walk.modifyBlock_table, SymbolTable.size_insert]
        exact Nat.le_succ _

theorem declareTypeParameter {name : String} {id : SymbolId}
    (hid : ∀ walk : Walk, walk.InRange unit.decls → size ≤ walk.table.size →
      walk.table.Declares id (· = .typeParameter) name) :
    Bounded unit size noTypes (Walker.declareTypeParameter name id) := by
  apply ofModify
  intro walk hwalk hsize
  refine ⟨hwalk.modifyBlock ?_, Walk.modifyBlock_table walk _⟩
  intro block hblock other number hmem
  rcases List.mem_cons.mp hmem with heq | hrest
  · cases heq
    exact hid walk hwalk hsize
  · exact hblock other number hrest

theorem declareLocalTypeParameter (name : String) :
    Bounded unit size noTypes (Walker.declareLocalTypeParameter unit name) := by
  intro walk hwalk _
  let symbol : Symbol := {
    name, qualifiedName := name, package := unit.package, kind := .typeParameter }
  refine ⟨?_, ?_, fun _ hid => by cases hid⟩
  · have hinserted : Walk.InRange unit.decls { walk with table := walk.table.insert symbol } :=
      hwalk.insert fun owner howner => by cases howner
    apply Walk.InRange.modifyBlock hinserted
    intro block hblock other number hmem
    rcases List.mem_cons.mp hmem with heq | hrest
    · cases heq
      exact walk.table.declares_insert symbol
    · exact hblock other number hrest
  · change walk.table.size ≤ (Walk.modifyBlock _ _).table.size
    rw [Walk.modifyBlock_table, SymbolTable.size_insert]
    exact Nat.le_succ _

end Bounded

/-!
# Visiting
-/

def BoundedVisit (unit : WalkedUnit) (visit : Visit) : Prop :=
  ∀ size site, Bounded unit size Meaning.types (visit site)

namespace Bounded

variable {unit : WalkedUnit} {size : Nat} {visit : Visit}

theorem visitAll (hvisit : BoundedVisit unit visit) (sites : List Site) :
    Bounded unit size noTypes (Walker.visitAll visit sites) :=
  forM fun site _ => discard (hvisit size site)

theorem visitChildren (hvisit : BoundedVisit unit visit) (site : Site) :
    Bounded unit size noTypes (Walker.visitChildren visit site) :=
  visitAll hvisit site.namedChildren

theorem visit? (hvisit : BoundedVisit unit visit) (site : Option Site) :
    Bounded unit size Meaning.types (Walker.visit? visit site) := by
  cases site with
  | none => exact pure_nothing rfl
  | some site => exact hvisit size site

theorem visitEach (hvisit : BoundedVisit unit visit) (sites : List Site) :
    Bounded unit size visitedTypes (Walker.visitEach visit sites) := by
  unfold Walker.visitEach
  induction sites generalizing size with
  | nil => exact pure_nothing rfl
  | cons site rest ih =>
      rw [List.mapM_cons, bind_assoc]
      apply bind (hvisit size site)
      intro meaning larger _ hmeaning
      rw [pure_bind]
      apply bind ih
      intro visited largest hlargest hvisited
      apply Bounded.pure
      intro id hid
      rcases List.mem_append.mp hid with hfirst | hothers
      · exact Nat.lt_of_lt_of_le (hmeaning id hfirst) hlargest
      · exact hvisited id hothers

theorem meaningAt_types {visited : List (Site × Meaning)} {site : Option Site} {id : SymbolId}
    (hid : id ∈ (Walker.meaningAt visited site).types) : id ∈ visitedTypes visited := by
  unfold Walker.meaningAt at hid
  cases hfind : visited.find? fun entry => entry.1.isAt site with
  | none =>
      rw [hfind] at hid
      cases hid
  | some entry =>
      rw [hfind] at hid
      exact List.mem_flatMap.mpr ⟨entry, List.mem_of_find?_eq_some hfind, hid⟩

theorem simpleType? (name : String) :
    Bounded unit size Option.toList (Walker.simpleType? unit name) := by
  apply bind_get
  intro walk hwalk _
  apply Bounded.pure
  intro id hid
  exact hwalk.simpleType_lt (Option.mem_toList.mp hid)

end Bounded

end RestrictedApi
