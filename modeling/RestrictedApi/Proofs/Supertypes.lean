import RestrictedApi.Proofs.Attached

/-!
# Linked supertypes

Supertypes are linked in two rounds, type by type in the order of the symbols.  So when the turn of
a type comes for the last time, the types before it are linked for good, and it and the types after
it still stand as the first round has left them.  This module says what a round makes of the
records, and when a further round would change nothing.
-/

namespace RestrictedApi

theorem findSome_congr {α β : Type} {read other : α → Option β} {items : List α}
    (h : ∀ item, item ∈ items → read item = other item) :
    items.findSome? read = items.findSome? other := by
  induction items with
  | nil => rfl
  | cons item rest ih =>
      rw [List.findSome?_cons, List.findSome?_cons, h item (List.mem_cons_self ..),
        ih fun item hitem => h item (List.mem_cons_of_mem _ hitem)]

namespace TypeDecl

def unlinked (decl : TypeDecl) : TypeDecl :=
  { decl with superclass := none, interfaces := [] }

def linkedAs (decl other : TypeDecl) : TypeDecl :=
  { decl with superclass := other.superclass, interfaces := other.interfaces }

def supertypeNames (decl : TypeDecl) : List DottedName :=
  decl.superclassName.toList ++ decl.interfaceNames

theorem linkedAs_of_unlinked {decl other : TypeDecl} (h : decl.unlinked = other.unlinked) :
    decl.linkedAs other = other := by
  cases decl
  cases other
  simp only [unlinked, mk.injEq] at h
  simp only [linkedAs, mk.injEq]
  tauto

end TypeDecl

namespace Declarations

/-!
# Records that differ in supertypes only
-/

/-- The second records differ from the first at most in the supertypes that were found. -/
structure Relinks (first second : Declarations) : Prop where
  units : second.units = first.units
  typesByName : second.typesByName = first.typesByName
  packageTypes : second.packageTypes = first.packageTypes
  size : second.types.size = first.types.size
  types : ∀ id : SymbolId,
    second.types[id]?.map TypeDecl.unlinked = first.types[id]?.map TypeDecl.unlinked

namespace Relinks

variable {first second third : Declarations}

theorem refl (decls : Declarations) : decls.Relinks decls :=
  ⟨rfl, rfl, rfl, rfl, fun _ => rfl⟩

theorem symm (h : first.Relinks second) : second.Relinks first :=
  ⟨h.units.symm, h.typesByName.symm, h.packageTypes.symm, h.size.symm, fun id => (h.types id).symm⟩

theorem trans (h : first.Relinks second) (h' : second.Relinks third) : first.Relinks third where
  units := h'.units.trans h.units
  typesByName := h'.typesByName.trans h.typesByName
  packageTypes := h'.packageTypes.trans h.packageTypes
  size := h'.size.trans h.size
  types := fun id => (h'.types id).trans (h.types id)

theorem bind_types {β : Type} (h : first.Relinks second) (id : SymbolId)
    (read : TypeDecl → Option β) (hread : ∀ decl, read decl.unlinked = read decl) :
    second.types[id]?.bind read = first.types[id]?.bind read := by
  have hunlinked : ∀ decls : Declarations, decls.types[id]?.bind read =
      (decls.types[id]?.map TypeDecl.unlinked).bind read := by
    intro decls
    cases decls.types[id]? with
    | none => rfl
    | some decl => exact (hread decl).symm
  rw [hunlinked, hunlinked, h.types]

theorem enclosingChain_eq (h : first.Relinks second) (id : SymbolId) :
    second.enclosingChain id = first.enclosingChain id := by
  have hchain : ∀ rounds chain current,
      second.addOuter rounds chain current = first.addOuter rounds chain current := by
    intro rounds
    induction rounds with
    | zero =>
        intro chain current
        cases current <;> rfl
    | succ rounds ih =>
        intro chain current
        cases current with
        | none => rfl
        | some id =>
            rw [addOuter, addOuter, ih, h.bind_types id (·.outer) fun _ => rfl]
  unfold enclosingChain
  rw [hchain, h.size]

end Relinks

theorem mem_addLevels_of_mem {decls : Declarations} {rounds : Nat} {found frontier : List SymbolId}
    {id : SymbolId} (h : id ∈ found) : id ∈ decls.addLevels rounds found frontier := by
  induction rounds generalizing found frontier with
  | zero => exact h
  | succ rounds ih =>
      rw [addLevels]
      split
      · exact h
      · exact ih (List.mem_append_left _ h)

theorem addLevels_congr {first second : Declarations} {rounds : Nat}
    {found frontier : List SymbolId}
    (h : ∀ id, id ∈ second.addLevels rounds found frontier →
      first.supertypes id = second.supertypes id) :
    first.addLevels rounds found frontier = second.addLevels rounds found frontier := by
  induction rounds generalizing found frontier with
  | zero => rfl
  | succ rounds ih =>
      rw [addLevels] at h ⊢
      rw [addLevels]
      generalize hfresh : freshIn found frontier = fresh at h ⊢
      cases fresh with
      | nil => rfl
      | cons id rest =>
          have hlevel : (id :: rest).flatMap first.supertypes =
              (id :: rest).flatMap second.supertypes := by
            apply List.flatMap_congr
            intro other hother
            exact h other (mem_addLevels_of_mem (List.mem_append_right _ hother))
          change first.addLevels rounds (found ++ id :: rest) _ =
            second.addLevels rounds (found ++ id :: rest) _
          rw [hlevel]
          exact ih h

theorem Relinks.memberType_eq {first second : Declarations} (h : first.Relinks second)
    {id : SymbolId} (hsame : ∀ other, other ∈ second.hierarchy id →
      first.supertypes other = second.supertypes other) (name : String) :
    first.memberType? id name = second.memberType? id name := by
  have hhierarchy : first.hierarchy id = second.hierarchy id := by
    unfold hierarchy at hsame ⊢
    rw [← h.size]
    exact addLevels_congr hsame
  unfold memberType?
  rw [hhierarchy]
  congr 1
  funext other
  exact (h.bind_types other (·.memberTypes[name]?) fun _ => rfl).symm

/-!
# Member types that a name is looked up in
-/

/-- The member types that are looked up when a name is followed from a type. -/
def memberLookups (decls : Declarations) : SymbolId → DottedName → List (SymbolId × String)
  | _, [] => []
  | id, segment :: rest =>
      (id, segment) ::
        match decls.memberType? id segment with
        | none => []
        | some next => decls.memberLookups next rest

def onDemandOwners (decls : Declarations) (unit : Nat) : List SymbolId :=
  (decls.units[unit]?.map (·.onDemandTypes)).getD [] |>.filterMap decls.typeNamed?

/-- The member types that may be looked up to resolve a name: its first segment in the enclosing
types and the imported ones, and the others along the name. -/
def lookups (decls : Declarations) (view : Viewpoint) : DottedName → List (SymbolId × String)
  | [] => []
  | first :: rest =>
      (view.enclosing ++ decls.onDemandOwners view.unit).map (fun type => (type, first)) ++
        match decls.simpleType? view first with
        | none => []
        | some id => decls.memberLookups id rest

namespace Relinks

variable {first second : Declarations}

theorem memberTypes_eq {id : SymbolId} {name : DottedName}
    (hsame : ∀ lookup, lookup ∈ second.memberLookups id name →
      first.memberType? lookup.1 lookup.2 = second.memberType? lookup.1 lookup.2) :
    first.memberTypes? id name = second.memberTypes? id name := by
  induction name generalizing id with
  | nil => rfl
  | cons segment rest ih =>
      rw [memberTypes?, memberTypes?, hsame (id, segment) (List.mem_cons_self ..)]
      cases hnext : second.memberType? id segment with
      | none => rfl
      | some next =>
          apply ih
          intro lookup hmem
          apply hsame
          rw [memberLookups, hnext]
          exact List.mem_cons_of_mem _ hmem

theorem simpleType_eq (h : first.Relinks second) {view : Viewpoint} {name : String}
    (hsame : ∀ type, type ∈ view.enclosing ++ second.onDemandOwners view.unit →
      first.memberType? type name = second.memberType? type name) :
    first.simpleType? view name = second.simpleType? view name := by
  unfold simpleType?
  rw [h.units]
  cases hnames : first.units[view.unit]? with
  | none => rfl
  | some names =>
      have hparameter : first.enclosingParameter? view.enclosing name =
          second.enclosingParameter? view.enclosing name := by
        unfold enclosingParameter?
        congr 1
        funext type
        exact (h.bind_types type (fun decl => TypeParameters.find? decl.typeParameters name)
          fun _ => rfl).symm
      have hmember : first.enclosingMember? view.enclosing name =
          second.enclosingMember? view.enclosing name := by
        unfold enclosingMember?
        apply findSome_congr
        intro type htype
        exact hsame type (List.mem_append_left _ htype)
      have hnamed : first.typeNamed? = second.typeNamed? := by
        funext imported
        unfold typeNamed?
        rw [h.typesByName]
      have hpackage : first.packageType? = second.packageType? := by
        funext package simple
        unfold packageType?
        rw [h.packageTypes]
      have hdemand : first.onDemandImport? names name = second.onDemandImport? names name := by
        unfold onDemandImport?
        rw [hnamed, hpackage]
        apply findSome_congr
        intro imported himported
        congr 1
        funext _
        cases htype : second.typeNamed? imported with
        | none => rfl
        | some type =>
            apply hsame
            apply List.mem_append_right
            unfold onDemandOwners
            rw [h.units, hnames]
            exact List.mem_filterMap.mpr ⟨imported, himported, htype⟩
      simp only [Option.bind_some, singleImport?, hparameter, hmember, hnamed, hpackage, hdemand]

theorem typeOf_eq (h : first.Relinks second) {view : Viewpoint} {name : DottedName}
    (hsame : ∀ lookup, lookup ∈ second.lookups view name →
      first.memberType? lookup.1 lookup.2 = second.memberType? lookup.1 lookup.2) :
    first.typeOf? view name = second.typeOf? view name := by
  cases name with
  | nil => rfl
  | cons segment rest =>
      have hfirst : first.simpleType? view segment = second.simpleType? view segment := by
        apply h.simpleType_eq
        intro type htype
        exact hsame (type, segment) (List.mem_append_left _ (List.mem_map_of_mem htype))
      rw [typeOf?, typeOf?, hfirst]
      cases hid : second.simpleType? view segment with
      | none =>
          dsimp only [typeNamed?]
          rw [h.typesByName]
      | some id =>
          apply memberTypes_eq
          intro lookup hmem
          apply hsame
          rw [lookups, hid]
          exact List.mem_append_right _ hmem

theorem supertype_eq (h : first.Relinks second) {id : SymbolId} {decl : TypeDecl}
    {name : DottedName}
    (hsame : ∀ lookup, lookup ∈ second.lookups (second.viewFrom decl.unit id) name →
      first.memberType? lookup.1 lookup.2 = second.memberType? lookup.1 lookup.2) :
    first.supertype? id decl name = second.supertype? id decl name := by
  have hview : first.viewFrom decl.unit id = second.viewFrom decl.unit id := by
    unfold viewFrom
    rw [h.enclosingChain_eq]
  unfold supertype?
  rw [hview, h.typeOf_eq hsame]

end Relinks

structure Alike (first second : Declarations) : Prop extends first.Relinks second where
  same : ∀ id : SymbolId, second.types[id]? = first.types[id]?

theorem Relinks.alike {first second : Declarations} (h : first.Relinks second)
    (hsame : ∀ id : SymbolId, second.types[id]? = first.types[id]?) : first.Alike second :=
  { h with same := hsame }

theorem Alike.supertype_eq {first second : Declarations} (h : first.Alike second) (id : SymbolId)
    (decl : TypeDecl) (name : DottedName) :
    second.supertype? id decl name = first.supertype? id decl name := by
  apply h.symm.supertype_eq
  intro lookup _
  apply h.symm.memberType_eq
  intro other _
  unfold supertypes
  rw [h.same]

/-!
# One round
-/

def linkedDecl (decls : Declarations) (id : SymbolId) (decl : TypeDecl) : TypeDecl :=
  { decl with
    superclass := decl.superclassName.bind (decls.supertype? id decl)
    interfaces := decl.interfaceNames.filterMap (decls.supertype? id decl) }

theorem Alike.linkedDecl_eq {first second : Declarations} (h : first.Alike second) (id : SymbolId)
    (decl : TypeDecl) : second.linkedDecl id decl = first.linkedDecl id decl := by
  unfold linkedDecl
  rw [funext (h.supertype_eq id decl)]

theorem types_linkType (decls : Declarations) (id other : SymbolId) :
    (decls.linkType id).types[other]? =
      if other = id then decls.types[id]?.map (decls.linkedDecl id) else decls.types[other]? := by
  unfold linkType
  cases hdecl : decls.types[id]? with
  | none =>
      change decls.types[other]? = _
      split
      · rename_i heq
        rw [heq, hdecl]
        rfl
      · rfl
  | some decl =>
      change (decls.types.modify id _)[other]? = _
      rw [Std.TreeMap.getElem?_modify]
      by_cases heq : other = id
      · rw [if_pos heq, if_pos (Std.compare_eq_iff_eq.mpr heq.symm), hdecl]
        rfl
      · rw [if_neg heq, if_neg fun hcompare => heq (Std.compare_eq_iff_eq.mp hcompare).symm]

theorem relinks_linkType (decls : Declarations) (id : SymbolId) :
    decls.Relinks (decls.linkType id) := by
  have htypes : ∀ other : SymbolId, (decls.linkType id).types[other]?.map TypeDecl.unlinked =
      decls.types[other]?.map TypeDecl.unlinked := by
    intro other
    rw [types_linkType]
    split
    · rename_i heq
      rw [heq, Option.map_map]
      rfl
    · rfl
  unfold linkType at htypes ⊢
  split
  · exact Relinks.refl decls
  · rename_i decl hdecl
    rw [hdecl] at htypes
    exact ⟨rfl, rfl, rfl, Std.TreeMap.size_modify, htypes⟩

theorem relinks_foldl (decls : Declarations) (ids : List SymbolId) :
    decls.Relinks (ids.foldl linkType decls) := by
  induction ids generalizing decls with
  | nil => exact Relinks.refl decls
  | cons id rest ih => exact (decls.relinks_linkType id).trans (ih _)

theorem relinks_linkSupertypes (decls : Declarations) : decls.Relinks decls.linkSupertypes :=
  decls.relinks_foldl _

theorem types_foldl_of_not_mem (decls : Declarations) {ids : List SymbolId} {id : SymbolId}
    (hid : id ∉ ids) : (ids.foldl linkType decls).types[id]? = decls.types[id]? := by
  induction ids generalizing decls with
  | nil => rfl
  | cons other rest ih =>
      rw [List.mem_cons, not_or] at hid
      rw [List.foldl_cons, ih _ hid.2, types_linkType, if_neg hid.1]

theorem keys_split {decls : Declarations} {id : SymbolId} {decl : TypeDecl}
    (hdecl : decls.types[id]? = some decl) :
    ∃ before after, decls.types.keys = before ++ id :: after ∧
      (∀ other, other ∈ before → other < id) ∧ ∀ other, other ∈ after → id < other := by
  have hmem : id ∈ decls.types.keys := by
    rw [Std.TreeMap.mem_keys, Std.TreeMap.mem_iff_isSome_getElem?, hdecl]
    rfl
  rcases List.append_of_mem hmem with ⟨before, after, hkeys⟩
  have hordered := Std.TreeMap.ordered_keys (t := decls.types)
  rw [hkeys, List.pairwise_append, List.pairwise_cons] at hordered
  refine ⟨before, after, hkeys, ?_, ?_⟩
  · intro other hother
    exact Nat.compare_eq_lt.mp (hordered.2.2 other hother id (List.mem_cons_self ..))
  · intro other hother
    exact Nat.compare_eq_lt.mp (hordered.2.1.1 other hother)

/-- The records as they stand when it is the turn of `id` in a round that turns `earlier` into
`decls`: the types before it are linked, it and the types after it are not yet linked anew. -/
def atTurn (decls earlier : Declarations) (id : SymbolId) : Declarations :=
  { decls with
    types := decls.types.map fun other decl =>
      if other < id then decl else decl.linkedAs (earlier.types[other]?.getD decl) }

theorem types_atTurn {decls earlier : Declarations} (h : earlier.Relinks decls)
    (id other : SymbolId) :
    (decls.atTurn earlier id).types[other]? =
      if other < id then decls.types[other]? else earlier.types[other]? := by
  change (decls.types.map _)[other]? = _
  rw [Std.TreeMap.getElem?_map]
  have htypes := h.types other
  split
  · exact Option.map_id' ..
  · cases hdecl : decls.types[other]? with
    | none =>
        rw [hdecl] at htypes
        exact (Option.map_eq_none_iff.mp htypes.symm).symm
    | some decl =>
        rw [hdecl] at htypes
        rcases Option.map_eq_some_iff.mp htypes.symm with ⟨before, hbefore, hunlinked⟩
        rw [hbefore]
        exact congrArg some (TypeDecl.linkedAs_of_unlinked hunlinked.symm)

theorem relinks_atTurn {decls earlier : Declarations} (h : earlier.Relinks decls) (id : SymbolId) :
    decls.Relinks (decls.atTurn earlier id) := by
  refine ⟨rfl, rfl, rfl, Std.TreeMap.size_map, fun other => ?_⟩
  rw [types_atTurn h]
  split
  · rfl
  · exact (h.types other).symm

theorem types_linkSupertypes (decls : Declarations) (id : SymbolId) :
    decls.linkSupertypes.types[id]? =
      decls.types[id]?.map ((decls.linkSupertypes.atTurn decls id).linkedDecl id) := by
  cases hdecl : decls.types[id]? with
  | none =>
      have htypes := decls.relinks_linkSupertypes.types id
      rw [hdecl] at htypes
      exact Option.map_eq_none_iff.mp htypes
  | some decl =>
      rcases keys_split hdecl with ⟨before, after, hkeys, hbefore, hafter⟩
      generalize hmid : before.foldl linkType decls = mid
      have hround : decls.linkSupertypes = (id :: after).foldl linkType mid := by
        unfold linkSupertypes
        rw [hkeys, List.foldl_append, hmid]
      have hself : mid.types[id]? = some decl := by
        rw [← hmid, types_foldl_of_not_mem decls fun h => Nat.lt_irrefl id (hbefore id h), hdecl]
      have hturn : mid.Alike (decls.linkSupertypes.atTurn decls id) := by
        have hrest : mid.Relinks decls.linkSupertypes := by
          rw [hround]
          exact mid.relinks_foldl _
        apply (hrest.trans (relinks_atTurn decls.relinks_linkSupertypes id)).alike
        intro other
        rw [types_atTurn decls.relinks_linkSupertypes]
        split
        · rename_i hlt
          rw [hround]
          apply types_foldl_of_not_mem
          rw [List.mem_cons, not_or]
          exact ⟨Nat.ne_of_lt hlt, fun h => Nat.lt_asymm hlt (hafter other h)⟩
        · rename_i hnot
          rw [← hmid]
          exact (types_foldl_of_not_mem decls fun h => hnot (hbefore other h)).symm
      have hnot : id ∉ after := fun h => Nat.lt_irrefl id (hafter id h)
      rw [Option.map_some, hturn.linkedDecl_eq, hround, List.foldl_cons,
        types_foldl_of_not_mem _ hnot, types_linkType, if_pos rfl, hself, Option.map_some]

/-!
# A further round
-/

/-- The supertypes of a declaration are what its names stand for in the records as they are. -/
structure Settled (decls : Declarations) (id : SymbolId) (decl : TypeDecl) : Prop where
  superclass : decl.superclass = decl.superclassName.bind (decls.supertype? id decl)
  interfaces : decl.interfaces = decl.interfaceNames.filterMap (decls.supertype? id decl)

theorem settled_iff {decls : Declarations} {id : SymbolId} {decl : TypeDecl} :
    decls.Settled id decl ↔ decls.linkedDecl id decl = decl := by
  constructor
  · intro h
    unfold linkedDecl
    rw [← h.superclass, ← h.interfaces]
  · intro h
    exact ⟨(congrArg TypeDecl.superclass h).symm, (congrArg TypeDecl.interfaces h).symm⟩

theorem alike_foldl_of_settled {decls : Declarations}
    (h : ∀ (id : SymbolId) (decl : TypeDecl), decls.types[id]? = some decl → decls.Settled id decl)
    (ids : List SymbolId) : decls.Alike (ids.foldl linkType decls) := by
  -- Along the round the records stay alike, so every name is resolved as in the first ones.
  have hround : ∀ other : Declarations, decls.Alike other →
      decls.Alike (ids.foldl linkType other) := by
    induction ids with
    | nil => exact fun _ hother => hother
    | cons id rest ih =>
        intro other hother
        apply ih
        apply (hother.toRelinks.trans (other.relinks_linkType id)).alike
        intro type
        rw [types_linkType]
        split
        · rename_i heq
          rw [heq, hother.same]
          cases hdecl : decls.types[id]? with
          | none => rfl
          | some decl =>
              rw [Option.map_some, hother.linkedDecl_eq, settled_iff.mp (h id decl hdecl)]
        · exact hother.same type
  exact hround decls ((Relinks.refl decls).alike fun _ => rfl)

/-- A further round changes nothing exactly if every declaration is settled. -/
theorem alike_linkSupertypes_iff (decls : Declarations) :
    decls.Alike decls.linkSupertypes ↔
      ∀ (id : SymbolId) (decl : TypeDecl), decls.types[id]? = some decl →
        decls.Settled id decl := by
  constructor
  · intro h id decl hdecl
    have hturn : decls.Alike (decls.linkSupertypes.atTurn decls id) := by
      apply (h.toRelinks.trans (relinks_atTurn h.toRelinks id)).alike
      intro other
      rw [types_atTurn h.toRelinks, h.same, ite_self]
    have htypes := decls.types_linkSupertypes id
    rw [h.same, hdecl, Option.map_some, hturn.linkedDecl_eq] at htypes
    exact settled_iff.mpr (Option.some.inj htypes).symm
  · intro h
    exact alike_foldl_of_settled h _

/-- Among a type and its supertypes is one, `id` or a later one, that the round has given other
supertypes. -/
def isRelinked (decls earlier : Declarations) (id type : SymbolId) : Bool :=
  (decls.hierarchy type).any fun other =>
    id ≤ other && earlier.supertypes other != decls.supertypes other

theorem memberType_atTurn {decls earlier : Declarations} (h : earlier.Relinks decls)
    {id type : SymbolId} (hsame : decls.isRelinked earlier id type = false) (name : String) :
    (decls.atTurn earlier id).memberType? type name = decls.memberType? type name := by
  apply (relinks_atTurn h id).symm.memberType_eq
  intro other hother
  unfold supertypes
  rw [types_atTurn h]
  split
  · rfl
  · rename_i hnot
    have hother' := List.any_eq_false.mp hsame other hother
    by_contra hne
    exact hother' (by simpa [supertypes, Nat.le_of_not_lt hnot] using hne)

/-- A type is settled if the member types that its names are looked up in are those that they were
when its turn came.  This is to be asked of the lookups only that go through a relinked type. -/
theorem settled_of_lookups {decls earlier : Declarations} (h : earlier.Relinks decls)
    {id : SymbolId} {decl : TypeDecl} (hturn : (decls.atTurn earlier id).Settled id decl)
    (hsame : ∀ name, name ∈ decl.supertypeNames → ∀ lookup,
      lookup ∈ decls.lookups (decls.viewFrom decl.unit id) name →
        decls.isRelinked earlier id lookup.1 = true →
          (decls.atTurn earlier id).memberType? lookup.1 lookup.2 =
            decls.memberType? lookup.1 lookup.2) :
    decls.Settled id decl := by
  have hnames : ∀ name, name ∈ decl.supertypeNames →
      (decls.atTurn earlier id).supertype? id decl name = decls.supertype? id decl name := by
    intro name hname
    apply (relinks_atTurn h id).symm.supertype_eq
    intro lookup hmem
    cases hrelinked : decls.isRelinked earlier id lookup.1 with
    | false => exact memberType_atTurn h hrelinked lookup.2
    | true => exact hsame name hname lookup hmem hrelinked
  constructor
  · rw [hturn.superclass]
    cases hsuperclass : decl.superclassName with
    | none => rfl
    | some name =>
        apply hnames
        simp [TypeDecl.supertypeNames, hsuperclass]
  · rw [hturn.interfaces]
    apply List.filterMap_congr
    intro name hname
    exact hnames name (List.mem_append_right _ hname)

theorem Alike.settled_atTurn {earlier decls : Declarations} (h : earlier.linkSupertypes.Alike decls)
    {id : SymbolId} {decl : TypeDecl} (hdecl : decls.types[id]? = some decl) :
    (decls.atTurn earlier id).Settled id decl := by
  have hround := earlier.relinks_linkSupertypes
  have hturn : (earlier.linkSupertypes.atTurn earlier id).Alike (decls.atTurn earlier id) := by
    apply ((relinks_atTurn hround id).symm.trans
      (h.toRelinks.trans (relinks_atTurn (hround.trans h.toRelinks) id))).alike
    intro other
    rw [types_atTurn hround, types_atTurn (hround.trans h.toRelinks), h.same]
  rw [h.same, types_linkSupertypes] at hdecl
  rcases Option.map_eq_some_iff.mp hdecl with ⟨before, _, rfl⟩
  rw [← hturn.linkedDecl_eq]
  exact ⟨rfl, rfl⟩

theorem Relinks.alike_iff {first second : Declarations} (h : first.Relinks second) :
    first.Alike second ↔ ∀ id : SymbolId,
      second.types[id]?.map (fun decl => (decl.superclass, decl.interfaces)) =
        first.types[id]?.map fun decl => (decl.superclass, decl.interfaces) := by
  constructor
  · intro halike id
    rw [halike.same]
  · intro hsame
    apply h.alike
    intro id
    have htypes := h.types id
    have hlinks := hsame id
    cases hfirst : first.types[id]? with
    | none =>
        rw [hfirst] at htypes
        exact Option.map_eq_none_iff.mp htypes
    | some decl =>
        rw [hfirst] at htypes hlinks
        rcases Option.map_eq_some_iff.mp htypes with ⟨other, hother, hunlinked⟩
        rw [hother] at hlinks ⊢
        have hpair := Prod.mk.inj (Option.some.inj hlinks)
        rw [← TypeDecl.linkedAs_of_unlinked hunlinked, TypeDecl.linkedAs, ← hpair.1, ← hpair.2]

end Declarations

theorem Collected.alike_link (collected : Collected) :
    collected.decls.linkSupertypes.linkSupertypes.Alike collected.link.decls := by
  have hrest : ∀ decls : Declarations, decls.Alike (decls.linkMembers.withPending #[]) := by
    intro decls
    have hrelinks : decls.Relinks (decls.linkMembers.withPending #[]) :=
      ⟨rfl, rfl, rfl, rfl, fun _ => rfl⟩
    exact hrelinks.alike fun _ => rfl
  exact hrest _

namespace Program

def linkedOnce (units : List SourceUnit) : Declarations :=
  (collected units).decls.linkSupertypes

theorem alike_ofUnits (units : List SourceUnit) :
    (linkedOnce units).linkSupertypes.Alike (ofUnits units).decls := by
  rw [decls_ofUnits]
  exact (collected units).alike_link

/-- Every type of a program is linked to what its names stand for when its turn comes in the second
round.  A further round changes nothing exactly if this is also what they stand for in the end.  It
is for every type, unless a member type that one of its names is looked up in has changed since,
which takes a type, itself or a later one, that the second round has linked anew. -/
theorem supertypes_settled (units : List SourceUnit) :
    (∀ (id : SymbolId) (decl : TypeDecl), (ofUnits units).decls.types[id]? = some decl →
      ((ofUnits units).decls.atTurn (linkedOnce units) id).Settled id decl) ∧
    ((∀ id : SymbolId,
      ((ofUnits units).decls.linkSupertypes.types[id]?.map fun decl =>
        (decl.superclass, decl.interfaces)) =
      (ofUnits units).decls.types[id]?.map fun decl => (decl.superclass, decl.interfaces)) ↔
        ∀ (id : SymbolId) (decl : TypeDecl), (ofUnits units).decls.types[id]? = some decl →
          (ofUnits units).decls.Settled id decl) ∧
    ∀ (id : SymbolId) (decl : TypeDecl), (ofUnits units).decls.types[id]? = some decl →
      (∀ name, name ∈ decl.supertypeNames → ∀ lookup,
        lookup ∈ (ofUnits units).decls.lookups
          ((ofUnits units).decls.viewFrom decl.unit id) name →
        (ofUnits units).decls.isRelinked (linkedOnce units) id lookup.1 = true →
          ((ofUnits units).decls.atTurn (linkedOnce units) id).memberType? lookup.1 lookup.2 =
            (ofUnits units).decls.memberType? lookup.1 lookup.2) →
      (ofUnits units).decls.Settled id decl := by
  have halike := alike_ofUnits units
  have hrelinks := (linkedOnce units).relinks_linkSupertypes.trans halike.toRelinks
  generalize (ofUnits units).decls = decls at halike hrelinks ⊢
  refine ⟨fun id decl hdecl => halike.settled_atTurn hdecl, ?_, ?_⟩
  · rw [← decls.relinks_linkSupertypes.alike_iff]
    exact decls.alike_linkSupertypes_iff
  · intro id decl hdecl hsame
    exact Declarations.settled_of_lookups hrelinks (halike.settled_atTurn hdecl) hsame

def classOf (name : String) (superclass : DottedName) (members : List Node) : Node :=
  let segments := superclass.map fun segment =>
    ⟨.typeIdentifier, true, none, 1, 1, 0, 0, segment, []⟩
  let written : Node := ⟨.scopedTypeIdentifier, true, none, 1, 1, 0, 0, "", segments⟩
  let clause : Node := ⟨.superclassClause, true, some .superclass, 1, 1, 0, 0, "", [written]⟩
  ⟨.classDeclaration, true, none, 1, 1, 0, 0, "", [
    ⟨.identifier, true, some .name, 1, 1, 0, 0, name, []⟩] ++
    (if superclass = [] then [] else [clause]) ++
    [⟨.classBody, true, some .body, 1, 1, 0, 0, "", members⟩]⟩

/-- The unit `class A extends B.M {} class B extends C {} class C { class M {} }`. -/
def inheritedOnce : SourceUnit where
  path := ⟨"A.java"⟩
  root := ⟨.other, true, none, 1, 1, 0, 0, "", [
    classOf "A" ["B", "M"] [], classOf "B" ["C"] [], classOf "C" [] [classOf "M" [] []]]⟩

theorem inheritedOnce_settled :
    (linkedOnce [inheritedOnce]).superclass? 0 = none ∧
      ∃ decl, (ofUnits [inheritedOnce]).decls.types[0]? = some decl ∧ decl.superclass = some 5 ∧
        (ofUnits [inheritedOnce]).decls.Settled 0 decl := by
  have hsuperclass : (ofUnits [inheritedOnce]).decls.superclass? 0 = some 5 := by
    decide +kernel
  have hlookups : ((ofUnits [inheritedOnce]).decls.types[0]?.all fun decl =>
      decl.supertypeNames.all fun name =>
        ((ofUnits [inheritedOnce]).decls.lookups
          ((ofUnits [inheritedOnce]).decls.viewFrom decl.unit 0) name).all fun lookup =>
            ((ofUnits [inheritedOnce]).decls.atTurn (linkedOnce [inheritedOnce]) 0).memberType?
              lookup.1 lookup.2 ==
                (ofUnits [inheritedOnce]).decls.memberType? lookup.1 lookup.2) = true := by
    decide +kernel
  refine ⟨by decide +kernel, ?_⟩
  rcases Option.bind_eq_some_iff.mp hsuperclass with ⟨decl, hdecl, hfound⟩
  refine ⟨decl, hdecl, hfound, ?_⟩
  apply (supertypes_settled [inheritedOnce]).2.2 0 decl hdecl
  intro name hname lookup hlookup _
  rw [hdecl, Option.all_some] at hlookups
  exact eq_of_beq (List.all_eq_true.mp (List.all_eq_true.mp hlookups name hname) lookup hlookup)

/-- The unit `class A extends B.M {} class B extends C.L {} class C extends D {}
class D { class L { class M {} } }`. -/
def inheritedTwice : SourceUnit where
  path := ⟨"A.java"⟩
  root := ⟨.other, true, none, 1, 1, 0, 0, "", [
    classOf "A" ["B", "M"] [], classOf "B" ["C", "L"] [], classOf "C" ["D"] [],
    classOf "D" [] [classOf "L" [] [classOf "M" [] []]]]⟩

/-- Two rounds are not enough: a third one finds the superclass of `A`. -/
theorem inheritedTwice_unsettled :
    (ofUnits [inheritedTwice]).decls.superclass? 0 = none ∧
      (ofUnits [inheritedTwice]).decls.linkSupertypes.superclass? 0 = some 8 := by
  constructor
  · decide +kernel
  · decide +kernel

end Program
end RestrictedApi
