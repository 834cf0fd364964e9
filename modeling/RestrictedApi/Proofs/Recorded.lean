import RestrictedApi.Proofs.Packages

/-!
# The ledger of a program

The entries of all units together account for the whole table: a symbol is that of a package or of
exactly one entry, the node of a declaration leads to its entry, and what waits for a symbol is what
is written on its declaration.
-/

namespace RestrictedApi

def Collected.queuedFor (state : Collected) (id : SymbolId) : List PendingAnnotation :=
  state.decls.pending.toList.filter fun use => use.target = id

/-!
# Looking entries up
-/

namespace Entry

theorem target_of_mem_queue {unit : Nat} {entry : Entry} {use : PendingAnnotation}
    (huse : use ∈ entry.queue unit) : use.target = entry.id := by
  unfold queue at huse
  cases hdeclaration : entry.declaration with
  | none =>
      rw [hdeclaration] at huse
      cases huse
  | some declaration =>
      rw [hdeclaration] at huse
      rcases List.mem_map.mp huse with ⟨name, _, heq⟩
      rw [← heq]

theorem declaration_of_mem_records {entry : Entry} {record : Path × SymbolId}
    (hrecord : record ∈ entry.records) :
    ∃ declaration, entry.declaration = some declaration ∧ record.1 ∈ declaration.recorded := by
  unfold records at hrecord
  cases hdeclaration : entry.declaration with
  | none =>
      rw [hdeclaration] at hrecord
      cases hrecord
  | some declaration =>
      rw [hdeclaration] at hrecord
      rcases List.mem_map.mp hrecord with ⟨path, hpath, heq⟩
      refine ⟨declaration, rfl, ?_⟩
      rw [← heq]
      exact hpath

theorem filter_queues {unit : Nat} {entries : List Entry} (hids : (entries.map (·.id)).Nodup)
    {entry : Entry} (hentry : entry ∈ entries) :
    (entries.flatMap (queue unit)).filter (fun use => use.target = entry.id) =
      entry.queue unit := by
  induction entries with
  | nil => cases hentry
  | cons first rest ih =>
      rw [List.map_cons, List.nodup_cons] at hids
      rw [List.flatMap_cons, List.filter_append]
      have hothers : ∀ {found : Entry}, found.id ∉ rest.map (·.id) →
          (rest.flatMap (queue unit)).filter (fun use => use.target = found.id) = [] := by
        intro found hfound
        rw [List.filter_eq_nil_iff]
        intro use huse htarget
        rcases List.mem_flatMap.mp huse with ⟨other, hother, huse⟩
        have hsame : other.id = found.id := by
          rw [← target_of_mem_queue huse]
          simpa using htarget
        exact hfound (hsame ▸ List.mem_map_of_mem hother)
      rcases List.mem_cons.mp hentry with heq | hrest
      · have hown : (first.queue unit).filter (fun use => use.target = entry.id) =
            first.queue unit := by
          rw [List.filter_eq_self]
          intro use huse
          rw [heq]
          simpa using target_of_mem_queue huse
        rw [hown, heq, hothers hids.1, List.append_nil]
      · have hforeign : (first.queue unit).filter (fun use => use.target = entry.id) = [] := by
          rw [List.filter_eq_nil_iff]
          intro use huse htarget
          have hsame : first.id = entry.id := by
            rw [← target_of_mem_queue huse]
            simpa using htarget
          exact hids.1 (hsame ▸ List.mem_map_of_mem hrest)
        rw [hforeign, List.nil_append]
        exact ih hids.2 hrest

theorem getElem_foldl_of_not_mem {records : List (Path × SymbolId)}
    (sites : Std.TreeMap Path SymbolId) {path : Path}
    (hpath : ∀ record, record ∈ records → record.1 ≠ path) :
    (records.foldl (fun sites record => sites.insert record.1 record.2) sites)[path]? =
      sites[path]? := by
  induction records generalizing sites with
  | nil => rfl
  | cons first rest ih =>
      rw [List.foldl_cons, ih _ fun record hrecord => hpath record (List.mem_cons_of_mem _ hrecord),
        Std.TreeMap.getElem?_insert]
      apply if_neg
      intro hcompare
      exact hpath first List.mem_cons_self (Std.compare_eq_iff_eq.mp hcompare)

theorem getElem_records {entry : Entry} {declaration : Declaration}
    (hdeclaration : entry.declaration = some declaration) (sites : Std.TreeMap Path SymbolId) :
    (entry.records.foldl (fun sites record => sites.insert record.1 record.2)
      sites)[declaration.site.path]? = some entry.id := by
  have hrecords : entry.records = declaration.recorded.map fun path => (path, entry.id) := by
    rw [records, hdeclaration]
    rfl
  rw [hrecords, Declaration.recorded]
  split
  · exact Std.TreeMap.getElem?_insert_self
  · exact Std.TreeMap.getElem?_insert_self

theorem getElem_sites {entries : List Entry}
    (hapart : (entries.filterMap (·.declaration)).Pairwise Declaration.Apart) {entry : Entry}
    (hentry : entry ∈ entries) {declaration : Declaration}
    (hdeclaration : entry.declaration = some declaration) (sites : Std.TreeMap Path SymbolId) :
    ((entries.flatMap records).foldl (fun sites record => sites.insert record.1 record.2)
      sites)[declaration.site.path]? = some entry.id := by
  induction entries generalizing sites with
  | nil => cases hentry
  | cons first rest ih =>
      rw [List.flatMap_cons, List.foldl_append]
      rcases List.mem_cons.mp hentry with heq | hrest
      · rw [← heq, List.filterMap_cons, hdeclaration, List.pairwise_cons] at hapart
        rw [getElem_foldl_of_not_mem, ← heq, getElem_records hdeclaration]
        intro record hrecord hsame
        rcases List.mem_flatMap.mp hrecord with ⟨other, hother, hrecord⟩
        rcases declaration_of_mem_records hrecord with ⟨later, hlater, hmem⟩
        rw [hsame] at hmem
        exact hapart.1 later (List.mem_filterMap.mpr ⟨other, hother, hlater⟩) hmem
      · apply ih _ hrest
        rw [List.filterMap_cons] at hapart
        split at hapart
        · exact hapart
        · exact (List.pairwise_cons.mp hapart).2

theorem Placed.kind_ne_package {unit : CollectingUnit} {known : List Entry} {entry : Entry}
    (h : entry.Placed unit known) : entry.symbol.kind ≠ .package := by
  cases h with
  | type outer declaration _ _ _ _ hkind hsymbol =>
      rw [hsymbol]
      intro hpackage
      change declaration.kind = .package at hpackage
      rw [hpackage] at hkind
      cases hkind
  | member outer name kind _ _ _ _ _ hkind hsymbol =>
      rw [hsymbol]
      intro hpackage
      change kind = .package at hpackage
      rw [hpackage] at hkind
      cases hkind
  | typeParameter name owner _ _ hsymbol =>
      rw [hsymbol]
      intro hpackage
      cases hpackage

end Entry

namespace SymbolTable

variable {first second : SymbolTable} {added : List Symbol}

theorem get?_of_append (htable : second.toList = first.toList ++ added) {id : SymbolId}
    (hid : id < first.size) : second.get? id = first.get? id := by
  have hlt : id < first.toList.length := hid
  rw [← getElem?_toList, htable, List.getElem?_append_left hlt, getElem?_toList]

theorem size_le_of_append (htable : second.toList = first.toList ++ added) :
    first.size ≤ second.size := by
  rw [← length_toList, ← length_toList, htable, List.length_append]
  exact Nat.le_add_right _ _

theorem mem_of_append (htable : second.toList = first.toList ++ added) {id : SymbolId}
    {symbol : Symbol} (hsymbol : second.get? id = some symbol) (hid : ¬ id < first.size) :
    symbol ∈ added := by
  have hge : first.toList.length ≤ id := Nat.le_of_not_lt hid
  rw [← getElem?_toList, htable, List.getElem?_append_right hge] at hsymbol
  exact List.mem_of_getElem? hsymbol

end SymbolTable

namespace Collected.Adds

variable {unit : Nat} {first second : Collected} {entries : List Entry}

theorem nodup_ids (h : first.Adds unit entries second) : (entries.map (·.id)).Nodup := by
  rw [h.ids]
  exact List.nodup_range'

theorem get_old (h : first.Adds unit entries second) {id : SymbolId}
    (hid : id < first.table.size) : second.table.get? id = first.table.get? id :=
  SymbolTable.get?_of_append h.table hid

theorem get_cases (h : first.Adds unit entries second) {id : SymbolId} {symbol : Symbol}
    (hsymbol : second.table.get? id = some symbol) :
    first.table.get? id = some symbol ∨
      ∃ entry, entry ∈ entries ∧ entry.id = id ∧ entry.symbol = symbol := by
  by_cases hid : id < first.table.size
  · rw [h.get_old hid] at hsymbol
    exact Or.inl hsymbol
  · have hlt : id < second.table.size := SymbolTable.lt_size_iff.mpr ⟨symbol, hsymbol⟩
    have hmem : id ∈ entries.map (·.id) := by
      rw [h.ids, List.mem_range'_1, ← h.size]
      exact ⟨Nat.le_of_not_lt hid, hlt⟩
    rcases List.mem_map.mp hmem with ⟨entry, hentry, heq⟩
    refine Or.inr ⟨entry, hentry, heq, ?_⟩
    rw [← heq, h.get hentry] at hsymbol
    exact Option.some.inj hsymbol

theorem packagesSound (h : first.Adds unit entries second) (hfirst : first.PackagesSound)
    (hkinds : ∀ entry, entry ∈ entries → entry.symbol.kind ≠ .package) :
    second.PackagesSound where
  symbol := by
    intro full id hid
    rw [h.packages] at hid ⊢
    have hsymbol := hfirst.symbol hid
    rw [h.get_old (SymbolTable.lt_size_iff.mpr ⟨_, hsymbol⟩)]
    exact hsymbol
  outer := by
    intro full id qualifier hid hqualifier
    rw [h.packages] at hid ⊢
    exact hfirst.outer hid hqualifier
  recorded := by
    intro id symbol hsymbol hkind
    rw [h.packages]
    rcases h.get_cases hsymbol with hold | ⟨entry, hentry, _, heq⟩
    · exact hfirst.recorded hold hkind
    · exact absurd (heq ▸ hkind) (hkinds entry hentry)
  named := by
    intro full id hid
    rw [h.packages] at hid
    exact hfirst.named hid

end Collected.Adds

/-!
# Entries of all units
-/

structure Collected.Holds (state : Collected) (number : Nat) (entry : Entry) : Prop where
  symbol : state.table.get? entry.id = some entry.symbol
  kind : entry.symbol.kind ≠ .package
  site : ∀ {declaration}, entry.declaration = some declaration →
    state.decls.sites[declaration.site.path]? = some entry.id
  under : ∀ {declaration}, entry.declaration = some declaration →
    Declaration.Under [number] declaration
  outer : entry.symbol.kind.isType = true →
    state.decls.outer? entry.id = some entry.chain.head?
  queue : state.queuedFor entry.id = entry.queue number

structure Collected.HoldsUnit (state : Collected) (number : Nat) (root : Node)
    (unit : CollectingUnit) (entries : List Entry) : Prop where
  numbered : unit.unit = number
  package : unit.package = ((Site.mk [number] root).declaredPackage?.map (·.2)).getD ""
  located : unit.Located state
  packageFirst : ∀ {id}, unit.packageSymbol = some id → ∀ {entry}, entry ∈ entries → id < entry.id
  entered : Entered unit none (Declaration.inUnit number root) entries
  holds : ∀ {entry}, entry ∈ entries → state.Holds number entry

/-- The state after some units have been collected, with the entries of each. -/
structure Collected.Tells (state : Collected) (roots : List Node)
    (ledger : List (CollectingUnit × List Entry)) : Prop where
  packages : state.PackagesSound
  length : ledger.length = roots.length
  distinct : ((ledger.flatMap (·.2)).map (·.id)).Nodup
  units : ∀ {number : Nat} {root : Node} {unit : CollectingUnit} {entries : List Entry},
    roots[number]? = some root → ledger[number]? = some (unit, entries) →
      state.HoldsUnit number root unit entries
  covers : ∀ {id : SymbolId} {symbol : Symbol}, state.table.get? id = some symbol →
    symbol.kind ≠ .package → ∃ (number : Nat) (unit : CollectingUnit) (entries : List Entry)
      (entry : Entry), ledger[number]? = some (unit, entries) ∧ entry ∈ entries ∧ entry.id = id
  targets : ∀ {use : PendingAnnotation}, use ∈ state.decls.pending.toList →
    use.target < state.table.size
  packageQueue : ∀ {full : String} {id : SymbolId}, state.decls.packages[full]? = some id →
    state.queuedFor id = roots.zipIdx.flatMap fun unit => Site.packageUses unit.2 unit.1 full id

theorem Collected.tells_empty : Collected.Tells {} [] [] where
  packages := {
    symbol := by simp
    outer := by simp
    recorded := by simp [SymbolTable.get?]
    named := by simp }
  length := rfl
  distinct := List.nodup_nil
  units := by simp
  covers := by simp [SymbolTable.get?]
  targets := by simp
  packageQueue := by simp

/-!
# Another unit
-/

namespace Collector

theorem declareUnit_eq (number : Nat) (root : Node) :
    declareUnit number root = (do
      let unit ← openUnit number root
      let names := ((Site.mk [number] root).namedChildren.filter fun child =>
        child.kind = .importDeclaration).foldl addImport { package := unit.package }
      modifyDecls fun decls => { decls with units := decls.units.push names }
      declareNodes unit none [number] 0 root.children) := by
  unfold declareUnit openUnit
  dsimp only
  cases (Site.mk [number] root).namedChildren.find? fun child =>
    child.kind = .packageDeclaration <;> rfl

theorem declareUnit_spec {state : Collected} (hstate : state.PackagesSound) (number : Nat)
    (root : Node) :
    ∃ unit opened entries, state.Opens number root unit opened ∧
      opened.Adds number entries ((declareUnit number root).run state).2 ∧
      Entered unit none (Declaration.inUnit number root) entries := by
  have hopens := opens_openUnit hstate number root
  rw [declareUnit_eq, StateT.run_bind]
  generalize (openUnit number root).run state = outcome at hopens ⊢
  rcases outcome with ⟨unit, opened⟩
  have hopens : state.Opens number root unit opened := hopens
  have hnumber := hopens.numbered
  subst hnumber
  let names := ((Site.mk [unit.unit] root).namedChildren.filter fun child =>
    child.kind = .importDeclaration).foldl addImport { package := unit.package }
  have hquiet : opened.Adds unit.unit [] { opened with
      decls := { opened.decls with units := opened.decls.units.push names } } :=
    Collected.Adds.quiet rfl rfl rfl rfl fun _ => rfl
  have hentered : Enters unit.unit opened.table.size
      (declareNodes unit none [unit.unit] 0 root.children)
      fun _ => Entered unit none (Declaration.inUnit unit.unit root) :=
    Enters.declareNodes none [unit.unit] 0 root.children fun _ heq => by cases heq
  rcases hentered _ hquiet.size_le with ⟨entries, hadds, hentries⟩
  exact ⟨unit, opened, entries, hopens, hquiet.append hadds, hentries⟩

end Collector

theorem Site.target_of_mem_packageUses {number : Nat} {root : Node} {full : String}
    {id : SymbolId} {use : PendingAnnotation} (huse : use ∈ Site.packageUses number root full id) :
    use.target = id := by
  unfold packageUses at huse
  split at huse
  · cases huse
  · split at huse
    · rcases List.mem_map.mp huse with ⟨name, _, heq⟩
      rw [← heq]
    · cases huse

theorem Site.packageUses_of_ne {number : Nat} {root : Node} {package full : String} {id : SymbolId}
    (hpackage : package = ((Site.mk [number] root).declaredPackage?.map (·.2)).getD "")
    (hne : package ≠ full) : Site.packageUses number root full id = [] := by
  unfold packageUses
  cases hdeclared : (Site.mk [number] root).declaredPackage? with
  | none => rfl
  | some declared =>
      rw [hdeclared] at hpackage
      have hname : declared.2 ≠ full := by
        intro heq
        exact hne (hpackage.trans heq)
      dsimp only
      rw [if_neg hname]

namespace Collected

section Unit

variable {state opened second : Collected} {number : Nat} {root : Node} {unit : CollectingUnit}
variable {entries : List Entry}

theorem Opens.size_le (hopens : state.Opens number root unit opened) :
    state.table.size ≤ opened.table.size := by
  rcases hopens.table with ⟨added, htable, _⟩
  exact SymbolTable.size_le_of_append htable

theorem Opens.get_old (hopens : state.Opens number root unit opened) {id : SymbolId}
    (hid : id < state.table.size) : opened.table.get? id = state.table.get? id := by
  rcases hopens.table with ⟨added, htable, _⟩
  exact SymbolTable.get?_of_append htable hid

/-- What waits for a symbol: what has waited before, then what the unit says of its package, then
what is written on its declarations. -/
theorem queuedFor_of_adds (hopens : state.Opens number root unit opened)
    (hadds : opened.Adds number entries second) (id : SymbolId) :
    second.queuedFor id = state.queuedFor id ++
      ((unit.packageSymbol.toList.flatMap (Site.packageUses number root unit.package)).filter
        fun use => use.target = id) ++
      ((entries.flatMap (Entry.queue number)).filter fun use => use.target = id) := by
  rw [queuedFor, hadds.pending, hopens.pending, List.filter_append, List.filter_append]
  rfl

theorem filter_packageUses_of_ne {id : SymbolId} (hid : unit.packageSymbol ≠ some id) :
    ((unit.packageSymbol.toList.flatMap (Site.packageUses number root unit.package)).filter
      fun use => use.target = id) = [] := by
  rw [List.filter_eq_nil_iff]
  intro use huse htarget
  rcases List.mem_flatMap.mp huse with ⟨symbol, hsymbol, huse⟩
  have hsame : symbol = id := by
    rw [← Site.target_of_mem_packageUses huse]
    simpa using htarget
  rw [hsame, Option.mem_toList] at hsymbol
  exact hid hsymbol

theorem filter_queues_of_lt (hadds : opened.Adds number entries second) {id : SymbolId}
    (hid : id < opened.table.size) :
    ((entries.flatMap (Entry.queue number)).filter fun use => use.target = id) = [] := by
  rw [List.filter_eq_nil_iff]
  intro use huse htarget
  rcases List.mem_flatMap.mp huse with ⟨entry, hentry, huse⟩
  have hsame : entry.id = id := by
    rw [← Entry.target_of_mem_queue huse]
    simpa using htarget
  have hbound := (hadds.id_bounds hentry).1
  rw [hsame] at hbound
  exact Nat.not_lt.mpr hbound hid

theorem Opens.packageSymbol (hopens : state.Opens number root unit opened) {id : SymbolId}
    (hid : unit.packageSymbol = some id) :
    opened.decls.packages[unit.package]? = some id := by
  rcases hopens.located with ⟨_, hnone⟩ | ⟨_, other, hother, hrecorded⟩
  · rw [hid] at hnone
    cases hnone
  · rw [hid] at hother
    cases hother
    exact hrecorded

theorem Opens.packageSymbol_ne (hopens : state.Opens number root unit opened) {id : SymbolId}
    {symbol : Symbol} (hsymbol : opened.table.get? id = some symbol)
    (hkind : symbol.kind ≠ .package) : unit.packageSymbol ≠ some id := by
  intro hid
  have hpackage := hopens.sound.symbol (hopens.packageSymbol hid)
  rw [hsymbol] at hpackage
  apply hkind
  rw [Option.some.inj hpackage]
  rfl

theorem Holds.keep {entry : Entry} {other : Nat} (h : state.Holds other entry)
    (hopens : state.Opens number root unit opened) (hadds : opened.Adds number entries second)
    (hentered : Entered unit none (Declaration.inUnit number root) entries)
    (hnumber : other ≠ number) : second.Holds other entry := by
  have hid : entry.id < state.table.size := SymbolTable.lt_size_iff.mpr ⟨_, h.symbol⟩
  have hid' : entry.id < opened.table.size := Nat.lt_of_lt_of_le hid hopens.size_le
  have hopened : opened.table.get? entry.id = some entry.symbol := by
    rw [hopens.get_old hid, h.symbol]
  constructor
  · rw [hadds.get_old hid', hopened]
  · exact h.kind
  · intro declaration hdeclaration
    rw [hadds.sites, hopens.sites, Entry.getElem_foldl_of_not_mem, h.site hdeclaration]
    intro record hrecord hsame
    rcases List.mem_flatMap.mp hrecord with ⟨later, hlater, hrecord⟩
    rcases Entry.declaration_of_mem_records hrecord with ⟨found, hfound, hmem⟩
    have hinUnit : found ∈ Declaration.inUnit number root := by
      rw [← hentered.1]
      exact List.mem_filterMap.mpr ⟨later, hlater, hfound⟩
    rw [hsame] at hmem
    exact Declaration.apart_of_units hnumber (h.under hdeclaration)
      (Declaration.under_of_mem_inUnit hinUnit) hmem
  · exact h.under
  · intro htype
    rw [hadds.outerOld hid', Declarations.outer?, hopens.types]
    exact h.outer htype
  · rw [queuedFor_of_adds hopens hadds, filter_queues_of_lt hadds hid',
      filter_packageUses_of_ne (hopens.packageSymbol_ne hopened h.kind), h.queue, List.append_nil,
      List.append_nil]

theorem holds_of_adds (hopens : state.Opens number root unit opened)
    (hadds : opened.Adds number entries second)
    (hentered : Entered unit none (Declaration.inUnit number root) entries)
    (htargets : ∀ {use : PendingAnnotation}, use ∈ state.decls.pending.toList →
      use.target < state.table.size)
    {entry : Entry} (hentry : entry ∈ entries) : second.Holds number entry := by
  have hge := (hadds.id_bounds hentry).1
  have hdeclared : ∀ {declaration}, entry.declaration = some declaration →
      declaration ∈ Declaration.inUnit number root := by
    intro declaration hdeclaration
    rw [← hentered.1]
    exact List.mem_filterMap.mpr ⟨entry, hentry, hdeclaration⟩
  constructor
  · exact hadds.get hentry
  · exact (hentered.2 entry hentry).kind_ne_package
  · intro declaration hdeclaration
    rw [hadds.sites]
    refine Entry.getElem_sites ?_ hentry hdeclaration _
    rw [hentered.1]
    exact Declaration.pairwise_inNodes [] [number] 0 root.children
  · exact fun hdeclaration => Declaration.under_of_mem_inUnit (hdeclared hdeclaration)
  · exact hadds.outerNew hentry
  · have hbefore : state.queuedFor entry.id = [] := by
      rw [queuedFor, List.filter_eq_nil_iff]
      intro use huse htarget
      have hlt := Nat.lt_of_lt_of_le (htargets huse) hopens.size_le
      have hsame : use.target = entry.id := by simpa using htarget
      rw [hsame] at hlt
      exact Nat.not_lt.mpr hge hlt
    have hpackage : unit.packageSymbol ≠ some entry.id := by
      intro hid
      exact Nat.not_lt.mpr hge (hopens.sound.id_lt (hopens.packageSymbol hid))
    rw [queuedFor_of_adds hopens hadds, filter_packageUses_of_ne hpackage, hbefore,
      Entry.filter_queues hadds.nodup_ids hentry]
    rfl

theorem PackagesSound.name_unique (h : state.PackagesSound) {first second : String} {id : SymbolId}
    (hfirst : state.decls.packages[first]? = some id)
    (hsecond : state.decls.packages[second]? = some id) : first = second := by
  have hsymbol := h.symbol hfirst
  rw [h.symbol hsecond] at hsymbol
  exact (congrArg Symbol.qualifiedName (Option.some.inj hsymbol)).symm

theorem filter_packageUses (hopens : state.Opens number root unit opened) {full : String}
    {id : SymbolId} (hid : opened.decls.packages[full]? = some id) :
    ((unit.packageSymbol.toList.flatMap (Site.packageUses number root unit.package)).filter
      fun use => use.target = id) = Site.packageUses number root full id := by
  by_cases hsymbol : unit.packageSymbol = some id
  · have hname := hopens.sound.name_unique (hopens.packageSymbol hsymbol) hid
    rw [hsymbol, hname, Option.toList_some, List.flatMap_singleton, List.filter_eq_self]
    intro use huse
    simpa using Site.target_of_mem_packageUses huse
  · have hname : unit.package ≠ full := by
      intro heq
      rcases hopens.located with ⟨hempty, _⟩ | ⟨_, other, hother, hrecorded⟩
      · exact hopens.sound.named hid (heq ▸ hempty)
      · rw [heq, hid] at hrecorded
        cases hrecorded
        exact hsymbol hother
    rw [filter_packageUses_of_ne hsymbol, Site.packageUses_of_ne hopens.package hname]

theorem Tells.queuedFor_opened {roots : List Node} {ledger : List (CollectingUnit × List Entry)}
    (h : state.Tells roots ledger) (hopens : state.Opens number root unit opened) {full : String}
    {id : SymbolId} (hid : opened.decls.packages[full]? = some id) :
    state.queuedFor id =
      roots.zipIdx.flatMap fun unit => Site.packageUses unit.2 unit.1 full id := by
  cases hold : state.decls.packages[full]? with
  | some other =>
      have hsame := hopens.packages hold
      rw [hid] at hsame
      cases hsame
      exact h.packageQueue hold
  | none =>
      have hnew : ¬ id < state.table.size := by
        intro hlt
        have hsymbol := hopens.sound.symbol hid
        rw [hopens.get_old hlt] at hsymbol
        have hrecorded := h.packages.recorded hsymbol rfl
        change state.decls.packages[full]? = some id at hrecorded
        rw [hold] at hrecorded
        cases hrecorded
      have hnone : state.queuedFor id = [] := by
        rw [queuedFor, List.filter_eq_nil_iff]
        intro use huse htarget
        have hsame : use.target = id := by simpa using htarget
        exact hnew (hsame ▸ h.targets huse)
      have hsilent : ∀ earlier, earlier ∈ roots.zipIdx →
          Site.packageUses earlier.2 earlier.1 full id = [] := by
        rintro ⟨tree, index⟩ hearlier
        have htree := List.mem_zipIdx_iff_getElem?.mp hearlier
        have hlt : index < ledger.length := by
          rw [h.length]
          exact (List.getElem?_eq_some_iff.mp htree).1
        have hunit := h.units htree (List.getElem?_eq_getElem hlt)
        apply Site.packageUses_of_ne hunit.package
        intro heq
        rcases hunit.located with ⟨hempty, _⟩ | ⟨_, other, _, hrecorded⟩
        · exact hopens.sound.named hid (heq ▸ hempty)
        · rw [heq, hold] at hrecorded
          cases hrecorded
      rw [hnone, List.flatMap_eq_nil_iff.mpr hsilent]

theorem HoldsUnit.keep {other : Nat} {tree : Node} {found : CollectingUnit} {more : List Entry}
    (h : state.HoldsUnit other tree found more)
    (hopens : state.Opens number root unit opened) (hadds : opened.Adds number entries second)
    (hentered : Entered unit none (Declaration.inUnit number root) entries)
    (hnumber : other ≠ number) : second.HoldsUnit other tree found more where
  numbered := h.numbered
  package := h.package
  located := h.located.keep fun hrecorded => by
    rw [hadds.packages]
    exact hopens.packages hrecorded
  packageFirst := h.packageFirst
  entered := h.entered
  holds := fun hentry => (h.holds hentry).keep hopens hadds hentered hnumber

theorem Tells.id_lt {roots : List Node} {ledger : List (CollectingUnit × List Entry)}
    (h : state.Tells roots ledger) {entry : Entry} (hentry : entry ∈ ledger.flatMap (·.2)) :
    entry.id < state.table.size := by
  rcases List.mem_flatMap.mp hentry with ⟨⟨unit, entries⟩, hunit, hentry⟩
  rcases List.mem_iff_getElem?.mp hunit with ⟨number, hnumber⟩
  have hlt : number < roots.length := by
    rw [← h.length]
    exact (List.getElem?_eq_some_iff.mp hnumber).1
  have hholds := (h.units (List.getElem?_eq_getElem hlt) hnumber).holds hentry
  exact SymbolTable.lt_size_iff.mpr ⟨_, hholds.symbol⟩

theorem holdsUnit_of_adds (hopens : state.Opens number root unit opened)
    (hadds : opened.Adds number entries second)
    (hentered : Entered unit none (Declaration.inUnit number root) entries)
    (htargets : ∀ {use : PendingAnnotation}, use ∈ state.decls.pending.toList →
      use.target < state.table.size) : second.HoldsUnit number root unit entries where
  numbered := hopens.numbered
  package := hopens.package
  located := hopens.located.keep fun hrecorded => by
    rw [hadds.packages]
    exact hrecorded
  packageFirst := by
    intro id hid entry hentry
    have hlt := hopens.sound.id_lt (hopens.packageSymbol hid)
    exact Nat.lt_of_lt_of_le hlt (hadds.id_bounds hentry).1
  entered := hentered
  holds := fun hentry => holds_of_adds hopens hadds hentered htargets hentry

theorem target_lt_of_adds (hopens : state.Opens number root unit opened)
    (hadds : opened.Adds number entries second)
    (htargets : ∀ {use : PendingAnnotation}, use ∈ state.decls.pending.toList →
      use.target < state.table.size) {use : PendingAnnotation}
    (huse : use ∈ second.decls.pending.toList) : use.target < second.table.size := by
  rw [hadds.pending, hopens.pending] at huse
  rcases List.mem_append.mp huse with hbefore | hown
  · rcases List.mem_append.mp hbefore with hold | hpackage
    · exact Nat.lt_of_lt_of_le (htargets hold) (Nat.le_trans hopens.size_le hadds.size_le)
    · rcases List.mem_flatMap.mp hpackage with ⟨id, hid, huse⟩
      have hlt := hopens.sound.id_lt (hopens.packageSymbol (Option.mem_toList.mp hid))
      rw [Site.target_of_mem_packageUses huse]
      exact Nat.lt_of_lt_of_le hlt hadds.size_le
  · rcases List.mem_flatMap.mp hown with ⟨entry, hentry, huse⟩
    rw [Entry.target_of_mem_queue huse]
    exact (hadds.id_bounds hentry).2

theorem Tells.extend {roots : List Node} {ledger : List (CollectingUnit × List Entry)}
    (h : state.Tells roots ledger) (hopens : state.Opens roots.length root unit opened)
    (hadds : opened.Adds roots.length entries second)
    (hentered : Entered unit none (Declaration.inUnit roots.length root) entries) :
    second.Tells (roots ++ [root]) (ledger ++ [(unit, entries)]) where
  packages := hadds.packagesSound hopens.sound fun entry hentry =>
    (hentered.2 entry hentry).kind_ne_package
  length := by rw [List.length_append, List.length_append, h.length]; rfl
  distinct := by
    rw [List.flatMap_append, List.flatMap_singleton, List.map_append, List.nodup_append]
    refine ⟨h.distinct, hadds.nodup_ids, ?_⟩
    intro id hold other hnew hsame
    rcases List.mem_map.mp hold with ⟨entry, hentry, heq⟩
    rcases List.mem_map.mp hnew with ⟨later, hlater, heq'⟩
    have hlt := Nat.lt_of_lt_of_le (h.id_lt hentry) hopens.size_le
    rw [heq, hsame, ← heq'] at hlt
    exact Nat.not_lt.mpr (hadds.id_bounds hlater).1 hlt
  units := by
    intro index tree found more htree hfound
    by_cases hindex : index < roots.length
    · have hindex' : index < ledger.length := by rwa [h.length]
      rw [List.getElem?_append_left hindex] at htree
      rw [List.getElem?_append_left hindex'] at hfound
      exact (h.units htree hfound).keep hopens hadds hentered (Nat.ne_of_lt hindex)
    · have hlength := (List.getElem?_eq_some_iff.mp htree).1
      rw [List.length_append, List.length_singleton] at hlength
      have heq : index = roots.length := by omega
      rw [heq, List.getElem?_concat_length] at htree
      rw [heq, ← h.length, List.getElem?_concat_length] at hfound
      cases htree
      cases hfound
      rw [heq]
      exact holdsUnit_of_adds hopens hadds hentered h.targets
  covers := by
    intro id symbol hsymbol hkind
    rcases hadds.get_cases hsymbol with hold | ⟨entry, hentry, heq, _⟩
    · by_cases hid : id < state.table.size
      · rw [hopens.get_old hid] at hold
        rcases h.covers hold hkind with ⟨index, found, more, entry, hfound, hentry, heq⟩
        refine ⟨index, found, more, entry, ?_, hentry, heq⟩
        rw [List.getElem?_append_left (List.getElem?_eq_some_iff.mp hfound).1]
        exact hfound
      · rcases hopens.table with ⟨added, htable, hkinds⟩
        exact absurd (hkinds symbol (SymbolTable.mem_of_append htable hold hid)) hkind
    · refine ⟨ledger.length, unit, entries, entry, ?_, hentry, heq⟩
      exact List.getElem?_concat_length
  targets := fun huse => target_lt_of_adds hopens hadds h.targets huse
  packageQueue := by
    intro full id hid
    rw [hadds.packages] at hid
    have hlt := hopens.sound.id_lt hid
    rw [queuedFor_of_adds hopens hadds, h.queuedFor_opened hopens hid,
      filter_packageUses hopens hid, filter_queues_of_lt hadds hlt, List.append_nil,
      List.zipIdx_append, List.flatMap_append]
    simp

end Unit

theorem Tells.unit_of {state : Collected} {roots : List Node}
    {ledger : List (CollectingUnit × List Entry)} (h : state.Tells roots ledger) {number : Nat}
    {root : Node} (hroot : roots[number]? = some root) :
    ∃ unit entries, ledger[number]? = some (unit, entries) ∧
      state.HoldsUnit number root unit entries := by
  have hlt : number < ledger.length := by
    rw [h.length]
    exact (List.getElem?_eq_some_iff.mp hroot).1
  have hpage := List.getElem?_eq_getElem hlt
  exact ⟨_, _, hpage, h.units hroot hpage⟩

theorem Tells.entry_of {state : Collected} {roots : List Node}
    {ledger : List (CollectingUnit × List Entry)} (h : state.Tells roots ledger) {id : SymbolId}
    {symbol : Symbol} (hsymbol : state.table.get? id = some symbol)
    (hkind : symbol.kind ≠ .package) :
    ∃ number root unit entries entry, roots[number]? = some root ∧
      state.HoldsUnit number root unit entries ∧ entry ∈ entries ∧ entry.id = id ∧
      entry.symbol = symbol := by
  rcases h.covers hsymbol hkind with ⟨number, unit, entries, entry, hpage, hentry, heq⟩
  have hlt : number < roots.length := by
    rw [← h.length]
    exact (List.getElem?_eq_some_iff.mp hpage).1
  have hroot := List.getElem?_eq_getElem hlt
  have hunit := h.units hroot hpage
  have hfound := (hunit.holds hentry).symbol
  rw [heq, hsymbol] at hfound
  exact ⟨number, _, unit, entries, entry, hroot, hunit, hentry, heq, (Option.some.inj hfound).symm⟩

theorem HoldsUnit.placed {state : Collected} {number : Nat} {root : Node}
    {unit : CollectingUnit} {entries : List Entry} (h : state.HoldsUnit number root unit entries)
    {entry : Entry} (hentry : entry ∈ entries) : entry.Placed unit entries := by
  have hplaced := h.entered.2 entry hentry
  rwa [Option.toList_none, List.nil_append] at hplaced

theorem HoldsUnit.mem_inUnit {state : Collected} {number : Nat} {root : Node}
    {unit : CollectingUnit} {entries : List Entry} (h : state.HoldsUnit number root unit entries)
    {declaration : Declaration} :
    declaration ∈ Declaration.inUnit number root ↔
      ∃ entry, entry ∈ entries ∧ entry.declaration = some declaration := by
  rw [← h.entered.1]
  exact List.mem_filterMap

/-- The ledger of all units of a program. -/
theorem tells_ofUnits (roots : List Node) : ∃ ledger, (ofUnits roots).Tells roots ledger := by
  have hfold : ∀ (rest before : List Node) (state : Collected)
      (ledger : List (CollectingUnit × List Entry)), state.Tells before ledger →
      ∃ ledger', ((rest.zipIdx before.length).foldl
        (fun state unit => ((Collector.declareUnit unit.2 unit.1).run state).2)
        state).Tells (before ++ rest) ledger' := by
    intro rest
    induction rest with
    | nil =>
        intro before state ledger hstate
        rw [List.append_nil]
        exact ⟨ledger, hstate⟩
    | cons root rest ih =>
        intro before state ledger hstate
        rcases Collector.declareUnit_spec hstate.packages before.length root with
          ⟨unit, opened, entries, hopens, hadds, hentered⟩
        have hnext := ih (before ++ [root]) _ _ (hstate.extend hopens hadds hentered)
        rw [List.append_assoc, List.length_append] at hnext
        exact hnext
  exact hfold roots [] {} [] tells_empty

end Collected

end RestrictedApi
