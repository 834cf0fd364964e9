import RestrictedApi.Proofs.Ledger

/-!
# Packages

Every package has one symbol, which is owned by that of the package around it.  A unit declares at
most one package; the annotations on its declaration wait for that package's symbol.
-/

namespace RestrictedApi

/-!
# Qualifiers
-/

namespace Text

def qualifier? (text : String) : Option String :=
  match (segments '.' text).dropLast with
  | [] => none
  | segment :: rest => some (".".intercalate (segment :: rest))

theorem intercalate_segments (text : String) : ".".intercalate (segments '.' text) = text := by
  apply String.toList_injective
  have hchars := intercalate_splitChars '.' text.toList
  simpa [segments, String.toList_intercalate, List.map_map, Function.comp_def] using hchars

theorem segments_of_isSimple {name : String} (hname : isSimple name = true) :
    segments '.' name = [name] := by
  have hdot : '.' ∉ name.toList := by simpa [isSimple] using hname
  rw [segments, splitChars_of_not_mem hdot]
  simp

theorem qualifier?_of_isSimple {name : String} (hname : isSimple name = true) :
    qualifier? name = none := by
  rw [qualifier?, segments_of_isSimple hname]
  rfl

theorem qualifier?_qualified (qualifier : String) {name : String} (hname : isSimple name = true) :
    qualifier? (qualifier ++ "." ++ name) = some qualifier := by
  have hchars : (qualifier ++ "." ++ name).toList = qualifier.toList ++ '.' :: name.toList := by
    simp
  have hsegments : segments '.' (qualifier ++ "." ++ name) =
      segments '.' qualifier ++ [name] := by
    rw [← segments_of_isSimple hname]
    unfold segments
    rw [hchars, splitChars_append, List.map_append]
  rw [qualifier?, hsegments, List.dropLast_concat]
  cases hqualifier : segments '.' qualifier with
  | nil =>
      have hsplit := List.map_eq_nil_iff.mp hqualifier
      exact absurd hsplit (splitChars_ne_nil '.' qualifier.toList)
  | cons segment rest =>
      dsimp only
      rw [← hqualifier, intercalate_segments]

end Text

namespace DottedName

theorem ne_empty_of_mem_ofText {text segment : String} (hsegment : segment ∈ ofText text) :
    segment ≠ "" := by
  simpa using (List.mem_filter.mp hsegment).2

theorem toText_singleton (segment : String) : toText [segment] = segment :=
  String.intercalate_singleton

theorem toText_ne_empty {name : DottedName} (hname : name ≠ [])
    (hsegments : ∀ segment, segment ∈ name → segment ≠ "") : name.toText ≠ "" := by
  cases name with
  | nil => exact absurd rfl hname
  | cons first rest =>
      cases rest with
      | nil =>
          rw [toText_singleton]
          exact hsegments first List.mem_cons_self
      | cons second rest =>
          rw [toText_cons_cons]
          simp

/-- The name that is reached by adding segments to a name, if there is one already. -/
def after (outer : Option String) (name : DottedName) : Option String :=
  match outer, name with
  | outer, [] => outer
  | none, first :: rest => some (toText (first :: rest))
  | some outer, first :: rest => some (outer ++ "." ++ toText (first :: rest))

theorem after_cons (outer : Option String) (segment : String) (rest : DottedName) :
    after (some ((outer.map fun parent => parent ++ "." ++ segment).getD segment)) rest =
      after outer (segment :: rest) := by
  cases outer with
  | none =>
      cases rest with
      | nil =>
          change some segment = some (toText [segment])
          rw [toText_singleton]
      | cons second rest =>
          change some (segment ++ "." ++ toText (second :: rest)) = _
          rw [← toText_cons_cons]
          rfl
  | some parent =>
      cases rest with
      | nil =>
          change some (parent ++ "." ++ segment) = some (parent ++ "." ++ toText [segment])
          rw [toText_singleton]
      | cons second rest =>
          change some (parent ++ "." ++ segment ++ "." ++ toText (second :: rest)) =
            some (parent ++ "." ++ toText (segment :: second :: rest))
          rw [toText_cons_cons segment]
          simp [String.append_assoc]

end DottedName

/-!
# One symbol a package
-/

def Symbol.ofPackage (full : String) (owner : Option SymbolId) : Symbol where
  name := Text.simpleName full
  qualifiedName := full
  package := full
  kind := .package
  owner := owner

namespace Collected

/-- Every recorded package has its symbol, owned by the package around it, and every symbol of a
package is recorded. -/
structure PackagesSound (state : Collected) : Prop where
  symbol : ∀ {full : String} {id : SymbolId}, state.decls.packages[full]? = some id →
    state.table.get? id = some (Symbol.ofPackage full
      ((Text.qualifier? full).bind fun qualifier => state.decls.packages[qualifier]?))
  outer : ∀ {full : String} {id : SymbolId} {qualifier : String},
    state.decls.packages[full]? = some id → Text.qualifier? full = some qualifier →
      ∃ owner, state.decls.packages[qualifier]? = some owner ∧ owner < id
  recorded : ∀ {id : SymbolId} {symbol : Symbol}, state.table.get? id = some symbol →
    symbol.kind = .package → state.decls.packages[symbol.qualifiedName]? = some id
  named : ∀ {full : String} {id : SymbolId}, state.decls.packages[full]? = some id → full ≠ ""

theorem PackagesSound.id_lt {state : Collected} (h : state.PackagesSound) {full : String}
    {id : SymbolId} (hid : state.decls.packages[full]? = some id) : id < state.table.size :=
  SymbolTable.lt_size_iff.mpr ⟨_, h.symbol hid⟩

structure AddsPackages (first second : Collected) : Prop where
  table : ∃ added, second.table.toList = first.table.toList ++ added ∧
    ∀ symbol, symbol ∈ added → symbol.kind = .package
  packages : ∀ {full : String} {id : SymbolId}, first.decls.packages[full]? = some id →
    second.decls.packages[full]? = some id
  sites : second.decls.sites = first.decls.sites
  pending : second.decls.pending = first.decls.pending
  types : second.decls.types = first.decls.types

namespace AddsPackages

variable {first second third : Collected}

theorem refl (state : Collected) : state.AddsPackages state where
  table := ⟨[], by simp⟩
  packages := fun h => h
  sites := rfl
  pending := rfl
  types := rfl

theorem trans (h : first.AddsPackages second) (h' : second.AddsPackages third) :
    first.AddsPackages third where
  table := by
    rcases h.table with ⟨added, htable, hkinds⟩
    rcases h'.table with ⟨more, htable', hkinds'⟩
    refine ⟨added ++ more, by rw [htable', htable, List.append_assoc], ?_⟩
    intro symbol hsymbol
    rcases List.mem_append.mp hsymbol with hadded | hmore
    · exact hkinds symbol hadded
    · exact hkinds' symbol hmore
  packages := fun hfull => h'.packages (h.packages hfull)
  sites := h'.sites.trans h.sites
  pending := h'.pending.trans h.pending
  types := h'.types.trans h.types

end AddsPackages

end Collected

namespace Collector

/-- The package of a name within another package; it gets a symbol if it is new. -/
def ensureSegment (outer : Option (String × SymbolId)) (segment : String) :
    Collector (Option (String × SymbolId)) := do
  let full := (outer.map fun parent => parent.1 ++ "." ++ segment).getD segment
  match (← get).decls.package? full with
  | some id => return some (full, id)
  | none => do
      let id ← insertSymbol {
        name := segment, qualifiedName := full, package := full, kind := .package
        owner := outer.map (·.2) }
      modifyDecls fun decls => { decls with packages := decls.packages.insert full id }
      return some (full, id)

theorem ensurePackage_eq (name : DottedName) :
    ensurePackage name = (do
      let last ← name.foldlM ensureSegment none
      return last.map (·.2)) :=
  rfl

def Found (state : Collected) (outer : Option (String × SymbolId)) : Prop :=
  ∀ full id, outer = some (full, id) → state.decls.packages[full]? = some id

theorem getElem_insert_of_found {packages : Std.TreeMap String SymbolId} {full key : String}
    {new id : SymbolId} (hnew : packages[full]? = none) (hkey : packages[key]? = some id) :
    (packages.insert full new)[key]? = some id := by
  have hne : full ≠ key := by
    intro heq
    rw [heq, hkey] at hnew
    cases hnew
  rw [Std.TreeMap.getElem?_insert, if_neg fun hcompare => hne (Std.compare_eq_iff_eq.mp hcompare),
    hkey]

section PackageName

variable (outer : Option (String × SymbolId)) {segment : String}

theorem simpleName_within (hsegment : Text.isSimple segment = true) :
    Text.simpleName ((outer.map fun parent => parent.1 ++ "." ++ segment).getD segment) =
      segment := by
  have hplain := Text.simpleName_of_isSimple hsegment
  cases outer with
  | none => exact hplain
  | some parent => exact (Text.simpleName_qualified parent.1 segment).trans hplain

theorem qualifier?_within (hsegment : Text.isSimple segment = true) :
    Text.qualifier? ((outer.map fun parent => parent.1 ++ "." ++ segment).getD segment) =
      outer.map (·.1) := by
  cases outer with
  | none => exact Text.qualifier?_of_isSimple hsegment
  | some parent => exact Text.qualifier?_qualified parent.1 hsegment

theorem within_ne_empty (hne : segment ≠ "") :
    (outer.map fun parent => parent.1 ++ "." ++ segment).getD segment ≠ "" := by
  cases outer with
  | none => exact hne
  | some parent => simp

end PackageName

theorem packagesSound_insert {state : Collected} {outer : Option (String × SymbolId)}
    {segment full : String} (hstate : state.PackagesSound) (houter : Found state outer)
    (hsegment : Text.isSimple segment = true) (hne : segment ≠ "")
    (hfull : full = (outer.map fun parent => parent.1 ++ "." ++ segment).getD segment)
    (hnew : state.decls.packages[full]? = none) :
    Collected.PackagesSound {
      table := state.table.insert {
        name := segment, qualifiedName := full, package := full, kind := .package
        owner := outer.map (·.2) }
      decls := { state.decls with
        packages := state.decls.packages.insert full state.table.size } } := by
  have hkeep : ∀ {key : String} {id : SymbolId}, state.decls.packages[key]? = some id →
      (state.decls.packages.insert full state.table.size)[key]? = some id :=
    fun hkey => getElem_insert_of_found hnew hkey
  have hsimple : Text.simpleName full = segment := by rw [hfull, simpleName_within outer hsegment]
  have hqualifier : Text.qualifier? full = outer.map (·.1) := by
    rw [hfull, qualifier?_within outer hsegment]
  constructor
  · intro other id hid
    rcases entry_of_insert hid with ⟨hkey, hsize⟩ | hid
    · have howner : (Text.qualifier? full).bind (fun qualifier =>
          (state.decls.packages.insert full state.table.size)[qualifier]?) = outer.map (·.2) := by
        rw [hqualifier]
        cases outer with
        | none => rfl
        | some parent => exact hkeep (houter parent.1 parent.2 rfl)
      rw [hkey, hsize, SymbolTable.get?_insert, if_pos rfl, howner, Symbol.ofPackage, hsimple]
    · have howner : (Text.qualifier? other).bind (fun qualifier =>
          (state.decls.packages.insert full state.table.size)[qualifier]?) =
          (Text.qualifier? other).bind fun qualifier => state.decls.packages[qualifier]? := by
        cases hother : Text.qualifier? other with
        | none => rfl
        | some qualifier =>
            rcases hstate.outer hid hother with ⟨owner, howner, _⟩
            exact (hkeep howner).trans howner.symm
      have hsize : id ≠ state.table.size := Nat.ne_of_lt (hstate.id_lt hid)
      rw [SymbolTable.get?_insert, if_neg hsize, hstate.symbol hid, howner]
  · intro other id qualifier hid hother
    rcases entry_of_insert hid with ⟨rfl, rfl⟩ | hid
    · rw [hqualifier] at hother
      rcases Option.map_eq_some_iff.mp hother with ⟨parent, hparent, heq⟩
      have hfound := houter parent.1 parent.2 hparent
      refine ⟨parent.2, ?_, ?_⟩
      · rw [← heq]
        exact hkeep hfound
      · exact hstate.id_lt hfound
    · rcases hstate.outer hid hother with ⟨owner, howner, hbefore⟩
      exact ⟨owner, hkeep howner, hbefore⟩
  · intro id symbol hsymbol hkind
    rw [SymbolTable.get?_insert] at hsymbol
    split at hsymbol
    · rename_i hid
      cases hsymbol
      rw [hid]
      exact Std.TreeMap.getElem?_insert_self
    · exact hkeep (hstate.recorded hsymbol hkind)
  · intro other id hid
    rcases entry_of_insert hid with ⟨rfl, rfl⟩ | hid
    · rw [hfull]
      exact within_ne_empty outer hne
    · exact hstate.named hid

theorem ensureSegment_run (outer : Option (String × SymbolId)) (segment : String)
    (state : Collected) {full : String}
    (hfull : (outer.map fun parent => parent.1 ++ "." ++ segment).getD segment = full) :
    (ensureSegment outer segment).run state =
      match state.decls.packages[full]? with
      | some id => (some (full, id), state)
      | none => (some (full, state.table.size), {
          table := state.table.insert {
            name := segment, qualifiedName := full, package := full, kind := .package
            owner := outer.map (·.2) }
          decls := { state.decls with
            packages := state.decls.packages.insert full state.table.size } }) := by
  rw [ensureSegment, hfull]
  cases hfound : state.decls.packages[full]? with
  | some id =>
      have hpackage : state.decls.package? full = some id := hfound
      simp only [StateT.run_bind, StateT.run_get, pure_bind, hpackage]
      rfl
  | none =>
      have hpackage : state.decls.package? full = none := hfound
      simp only [StateT.run_bind, StateT.run_get, pure_bind, hpackage]
      rfl

theorem ensureSegment_spec {state : Collected} {outer : Option (String × SymbolId)}
    {segment : String} (hstate : state.PackagesSound) (houter : Found state outer)
    (hsegment : Text.isSimple segment = true) (hne : segment ≠ "") :
    ∃ id after, (ensureSegment outer segment).run state =
        (some ((outer.map fun parent => parent.1 ++ "." ++ segment).getD segment, id), after) ∧
      after.decls.packages[
        (outer.map fun parent => parent.1 ++ "." ++ segment).getD segment]? = some id ∧
      after.PackagesSound ∧ state.AddsPackages after := by
  generalize hfull : (outer.map fun parent => parent.1 ++ "." ++ segment).getD segment = full
  rw [ensureSegment_run outer segment state hfull]
  cases hfound : state.decls.packages[full]? with
  | some id => exact ⟨id, state, rfl, hfound, hstate, Collected.AddsPackages.refl state⟩
  | none =>
      refine ⟨_, _, rfl, Std.TreeMap.getElem?_insert_self,
        packagesSound_insert hstate houter hsegment hne hfull.symm hfound, ?_⟩
      constructor
      · refine ⟨_, SymbolTable.toList_insert _ _, ?_⟩
        intro symbol hsymbol
        rw [List.mem_singleton.mp hsymbol]
      · exact fun hkey => getElem_insert_of_found hfound hkey
      · rfl
      · rfl
      · rfl

theorem foldlM_ensureSegment_spec {name : DottedName} {state : Collected}
    {outer : Option (String × SymbolId)} (hstate : state.PackagesSound) (houter : Found state outer)
    (hname : ∀ segment, segment ∈ name → Text.isSimple segment = true ∧ segment ≠ "") :
    ∃ last after, (name.foldlM ensureSegment outer).run state = (last, after) ∧
      last.map (·.1) = DottedName.after (outer.map (·.1)) name ∧ Found after last ∧
      after.PackagesSound ∧ state.AddsPackages after := by
  induction name generalizing state outer with
  | nil =>
      refine ⟨outer, state, rfl, ?_, houter, hstate, Collected.AddsPackages.refl state⟩
      cases outer <;> rfl
  | cons segment rest ih =>
      rcases hname segment List.mem_cons_self with ⟨hsimple, hne⟩
      rcases ensureSegment_spec hstate houter hsimple hne with
        ⟨id, middle, hrun, hfound, hmiddle, hadds⟩
      have hfound' : Found middle
          (some ((outer.map fun parent => parent.1 ++ "." ++ segment).getD segment, id)) := by
        intro full other heq
        cases heq
        exact hfound
      rcases ih hmiddle hfound'
          (fun other hother => hname other (List.mem_cons_of_mem segment hother)) with
        ⟨last, after, hrest, hlast, hafter, hsound, hadds'⟩
      refine ⟨last, after, ?_, ?_, hafter, hsound, hadds.trans hadds'⟩
      · rw [List.foldlM_cons, StateT.run_bind, hrun]
        exact hrest
      · rw [hlast, ← DottedName.after_cons, Option.map_map]
        rfl

theorem ensurePackage_spec {state : Collected} (hstate : state.PackagesSound) (text : String) :
    ∃ found after, (ensurePackage (DottedName.ofText text)).run state = (found, after) ∧
      after.PackagesSound ∧ state.AddsPackages after ∧
      (((DottedName.ofText text).toText = "" ∧ found = none) ∨
        ((DottedName.ofText text).toText ≠ "" ∧ ∃ id, found = some id ∧
          after.decls.packages[(DottedName.ofText text).toText]? = some id)) := by
  have hsegments : ∀ segment, segment ∈ DottedName.ofText text →
      Text.isSimple segment = true ∧ segment ≠ "" :=
    fun segment hsegment => ⟨DottedName.isSimple_of_mem_ofText hsegment,
      DottedName.ne_empty_of_mem_ofText hsegment⟩
  have hnone : Found state none := fun _ _ heq => by cases heq
  rcases foldlM_ensureSegment_spec hstate hnone hsegments with
    ⟨last, after, hrun, hlast, hfound, hsound, hadds⟩
  refine ⟨last.map (·.2), after, ?_, hsound, hadds, ?_⟩
  · rw [ensurePackage_eq, StateT.run_bind, hrun]
    rfl
  · generalize hname : DottedName.ofText text = name at hlast hsegments
    cases name with
    | nil =>
        have hempty : last = none := Option.map_eq_none_iff.mp hlast
        rw [hempty]
        exact Or.inl ⟨rfl, rfl⟩
    | cons first rest =>
        have htext := DottedName.toText_ne_empty (List.cons_ne_nil first rest)
          fun segment hsegment => (hsegments segment hsegment).2
        rcases Option.map_eq_some_iff.mp hlast with ⟨⟨full, id⟩, heq, hfull⟩
        refine Or.inr ⟨htext, id, by rw [heq]; rfl, ?_⟩
        rw [← hfull]
        exact hfound full id heq

end Collector

/-!
# The package of a unit
-/

/-- The package that a unit declares: its first package declaration, and the name that this has. -/
def Site.declaredPackage? (root : Site) : Option (Site × String) :=
  (root.namedChildren.find? fun child => child.kind = .packageDeclaration).bind fun site =>
    (site.namedChildren.find? fun child => child.kind.isName).map fun nameSite =>
      (site, (DottedName.ofText nameSite.text).toText)

def Site.packageUses (number : Nat) (root : Node) (full : String) (id : SymbolId) :
    List PendingAnnotation :=
  match (Site.mk [number] root).declaredPackage? with
  | none => []
  | some (site, name) =>
      if name = full then
        site.annotationNames.map fun annotation =>
          { target := id, unit := number, context := none, name := annotation }
      else []

/-- The package that a unit is collected in has been recorded.  A unit may be in no package. -/
def CollectingUnit.Located (unit : CollectingUnit) (state : Collected) : Prop :=
  (unit.package = "" ∧ unit.packageSymbol = none) ∨
    (unit.package ≠ "" ∧ ∃ id, unit.packageSymbol = some id ∧
      state.decls.packages[unit.package]? = some id)

theorem CollectingUnit.Located.keep {unit : CollectingUnit} {first second : Collected}
    (h : unit.Located first) (hpackages : ∀ {id : SymbolId},
      first.decls.packages[unit.package]? = some id →
        second.decls.packages[unit.package]? = some id) : unit.Located second := by
  rcases h with hnone | ⟨hne, id, hid, hrecorded⟩
  · exact Or.inl hnone
  · exact Or.inr ⟨hne, id, hid, hpackages hrecorded⟩

/-- What precedes the types of a unit: its package has been recorded, and the annotations on it
wait. -/
structure Collected.Opens (number : Nat) (root : Node) (first : Collected) (unit : CollectingUnit)
    (second : Collected) : Prop where
  numbered : unit.unit = number
  package : unit.package = ((Site.mk [number] root).declaredPackage?.map (·.2)).getD ""
  located : unit.Located second
  sound : second.PackagesSound
  table : ∃ added, second.table.toList = first.table.toList ++ added ∧
    ∀ symbol, symbol ∈ added → symbol.kind = .package
  packages : ∀ {full : String} {id : SymbolId}, first.decls.packages[full]? = some id →
    second.decls.packages[full]? = some id
  sites : second.decls.sites = first.decls.sites
  types : second.decls.types = first.decls.types
  pending : second.decls.pending.toList = first.decls.pending.toList ++
    unit.packageSymbol.toList.flatMap (Site.packageUses number root unit.package)

namespace Collector

def openUnit (number : Nat) (root : Node) : Collector CollectingUnit :=
  match (Site.mk [number] root).namedChildren.find? fun child =>
      child.kind = .packageDeclaration with
  | none => pure { unit := number }
  | some declaration => declarePackage number declaration

theorem opens_of_undeclared {state : Collected} (hstate : state.PackagesSound) {number : Nat}
    {root : Node} (hnone : (Site.mk [number] root).declaredPackage? = none) :
    state.Opens number root { unit := number } state where
  numbered := rfl
  package := by rw [hnone]; rfl
  located := Or.inl ⟨rfl, rfl⟩
  sound := hstate
  table := ⟨[], by simp⟩
  packages := fun h => h
  sites := rfl
  types := rfl
  pending := by simp

theorem opens_declarePackage {state : Collected} (hstate : state.PackagesSound) {number : Nat}
    {root : Node} {site nameSite : Site}
    (hname : (site.namedChildren.find? fun child => child.kind.isName) = some nameSite)
    (hdeclared : (Site.mk [number] root).declaredPackage? =
      some (site, (DottedName.ofText nameSite.text).toText)) :
    state.Opens number root ((declarePackage number site).run state).1
      ((declarePackage number site).run state).2 := by
  have hpackage : (DottedName.ofText nameSite.text).toText =
      ((Site.mk [number] root).declaredPackage?.map (·.2)).getD "" := by
    rw [hdeclared]
    rfl
  rcases ensurePackage_spec hstate nameSite.text with ⟨found, after, hrun, hsound, hadds, hfound⟩
  unfold declarePackage
  rw [hname]
  dsimp only
  rw [StateT.run_bind, hrun]
  cases found with
  | none =>
      refine ⟨rfl, hpackage, ?_, hsound, hadds.table, hadds.packages, hadds.sites, hadds.types, ?_⟩
      · rcases hfound with ⟨hempty, _⟩ | ⟨_, id, hid, _⟩
        · exact Or.inl ⟨hempty, rfl⟩
        · cases hid
      · change after.decls.pending.toList = _ ++ []
        rw [hadds.pending, List.append_nil]
  | some id =>
      refine ⟨rfl, hpackage, ?_, ⟨hsound.symbol, hsound.outer, hsound.recorded, hsound.named⟩,
        hadds.table, hadds.packages, hadds.sites, hadds.types, ?_⟩
      · rcases hfound with ⟨_, hnone⟩ | ⟨hne, other, hother, hrecorded⟩
        · cases hnone
        · cases hother
          exact Or.inr ⟨hne, id, rfl, hrecorded⟩
      · change (after.decls.pending ++ (site.annotationNames.map _).toArray).toList =
          _ ++ (Site.packageUses number root (DottedName.ofText nameSite.text).toText id ++ [])
        rw [Array.toList_append, hadds.pending, List.append_nil, Site.packageUses, hdeclared]
        dsimp only
        rw [if_pos rfl]

theorem opens_openUnit {state : Collected} (hstate : state.PackagesSound) (number : Nat)
    (root : Node) :
    state.Opens number root ((openUnit number root).run state).1
      ((openUnit number root).run state).2 := by
  unfold openUnit
  cases hsite : (Site.mk [number] root).namedChildren.find? fun child =>
      child.kind = .packageDeclaration with
  | none =>
      apply opens_of_undeclared hstate
      rw [Site.declaredPackage?, hsite]
      rfl
  | some site =>
      dsimp only
      cases hname : site.namedChildren.find? fun child => child.kind.isName with
      | none =>
          unfold declarePackage
          rw [hname]
          apply opens_of_undeclared hstate
          rw [Site.declaredPackage?, hsite, Option.bind_some, hname]
          rfl
      | some nameSite =>
          apply opens_declarePackage hstate hname
          rw [Site.declaredPackage?, hsite, Option.bind_some, hname]
          rfl

end Collector

end RestrictedApi
