import RestrictedApi.Proofs.Recorded

/-!
# Records of declarations

What the collecting pass records of declarations: where they are declared, who owns them, and the
type that is written for them.  A step of the pass keeps all earlier records, and it records
declarations only at the nodes that it is about.  The steps here are those that collect members.
-/

namespace RestrictedApi

theorem getElem?_insert_of_ne {κ β : Type} [Ord κ] [Std.TransOrd κ] [Std.LawfulEqOrd κ]
    {map : Std.TreeMap κ β} {key other : κ} {value : β} (h : other ≠ key) :
    (map.insert key value)[other]? = map[other]? := by
  rw [Std.TreeMap.getElem?_insert,
    if_neg fun hcompare => h (Std.compare_eq_iff_eq.mp hcompare).symm]

theorem getElem?_insert_self {κ β : Type} [Ord κ] [Std.TransOrd κ] [Std.LawfulEqOrd κ]
    {map : Std.TreeMap κ β} {key : κ} {value : β} : (map.insert key value)[key]? = some value := by
  rw [Std.TreeMap.getElem?_insert, if_pos (Std.compare_eq_iff_eq.mpr rfl)]

theorem map_getElem?_modify {κ β γ : Type} [Ord κ] [Std.TransOrd κ] [Std.LawfulEqOrd κ]
    (map : Std.TreeMap κ β) (key : κ) {change : β → β} {read : β → γ}
    (hread : ∀ value, read (change value) = read value) (other : κ) :
    (map.modify key change)[other]?.map read = map[other]?.map read := by
  rw [Std.TreeMap.getElem?_modify]
  split
  · rename_i heq
    rw [Std.compare_eq_iff_eq.mp heq, Option.map_map]
    exact congrArg (Option.map · _) (funext hread)
  · rfl

namespace SymbolTable

variable {first second : SymbolTable}

theorem get?_of_isPrefix (h : first.toList <+: second.toList) {id : SymbolId} {symbol : Symbol}
    (hsymbol : first.get? id = some symbol) : second.get? id = some symbol := by
  rcases h with ⟨more, hmore⟩
  have hlt : id < first.toList.length := lt_size_iff.mpr ⟨symbol, hsymbol⟩
  rw [← getElem?_toList, ← hmore, List.getElem?_append_left hlt, getElem?_toList, hsymbol]

theorem size_le_of_isPrefix (h : first.toList <+: second.toList) : first.size ≤ second.size :=
  h.length_le

end SymbolTable

/-!
# Earlier and later records
-/

namespace Collected

/-- The second state keeps the records of the first one, and records declarations only at the
touched nodes. -/
structure Later (touched : Path → Prop) (first second : Collected) : Prop where
  table : first.table.toList <+: second.table.toList
  members : ∀ id : SymbolId, id < first.table.size →
    second.decls.members[id]? = first.decls.members[id]?
  units : ∀ id : SymbolId, id < first.table.size →
    second.decls.types[id]?.map (·.unit) = first.decls.types[id]?.map (·.unit)
  sites : ∀ place : Path, ¬ touched place → second.decls.sites[place]? = first.decls.sites[place]?
  names : second.decls.units = first.decls.units

structure Signs (state : Collected) (unit : Nat) (declaration : Declaration) : Prop where
  type : declaration.kind.isType = true → ∃ id,
    state.decls.sites[declaration.site.path]? = some id ∧ id < state.table.size ∧
    state.decls.types[id]?.map (·.unit) = some unit
  member : declaration.kind = .field ∨ declaration.kind = .method → ∃ id member symbol,
    state.decls.sites[declaration.site.path]? = some id ∧
    state.decls.members[id]? = some member ∧ state.table.get? id = some symbol ∧
    symbol.owner = some member.owner ∧
    member.declaredType = Collector.declaredType? declaration.holder ∧ member.valueType = none ∧
    (declaration.kind = .field → member.typeParameters = [])

namespace Later

variable {touched more : Path → Prop} {first second third : Collected}

theorem refl (touched : Path → Prop) (state : Collected) : state.Later touched state :=
  ⟨List.prefix_refl _, fun _ _ => rfl, fun _ _ => rfl, fun _ _ => rfl, rfl⟩

theorem size_le (h : first.Later touched second) : first.table.size ≤ second.table.size :=
  SymbolTable.size_le_of_isPrefix h.table

theorem trans (h : first.Later touched second) (h' : second.Later more third) :
    first.Later (fun place => touched place ∨ more place) third where
  table := h.table.trans h'.table
  members := fun id hid =>
    (h'.members id (Nat.lt_of_lt_of_le hid h.size_le)).trans (h.members id hid)
  units := fun id hid => (h'.units id (Nat.lt_of_lt_of_le hid h.size_le)).trans (h.units id hid)
  sites := fun place hplace =>
    (h'.sites place fun hmore => hplace (Or.inr hmore)).trans
      (h.sites place fun htouched => hplace (Or.inl htouched))
  names := h'.names.trans h.names

theorem mono (h : first.Later touched second) (hmore : ∀ place, touched place → more place) :
    first.Later more second :=
  { h with
    sites := fun place hplace => h.sites place fun htouched => hplace (hmore place htouched) }

theorem signs (h : first.Later touched second) {unit : Nat} {declaration : Declaration}
    (hsigns : first.Signs unit declaration) (hplace : ¬ touched declaration.site.path) :
    second.Signs unit declaration where
  type := by
    intro hkind
    rcases hsigns.type hkind with ⟨id, hsite, hid, hunit⟩
    exact ⟨id, (h.sites _ hplace).trans hsite, Nat.lt_of_lt_of_le hid h.size_le,
      (h.units id hid).trans hunit⟩
  member := by
    intro hkind
    rcases hsigns.member hkind with ⟨id, member, symbol, hsite, hmember, hsymbol, hrest⟩
    have hid := SymbolTable.lt_size_iff.mpr ⟨symbol, hsymbol⟩
    exact ⟨id, member, symbol, (h.sites _ hplace).trans hsite, (h.members id hid).trans hmember,
      SymbolTable.get?_of_isPrefix h.table hsymbol, hrest⟩

end Later

end Collected

/-!
# Types by name
-/

/-- The maps from names to types agree with the dotted names of the symbols, and they know a type
for every dotted name that a symbol of a type has. -/
structure Declarations.Named (decls : Declarations) (table : SymbolTable) : Prop where
  byName : ∀ {name : String} {id : SymbolId}, decls.typesByName[name]? = some id →
    ∃ symbol, table.get? id = some symbol ∧ symbol.kind.isType = true ∧ symbol.qualifiedName = name
  listed : ∀ {id : SymbolId} {symbol : Symbol}, table.get? id = some symbol →
    symbol.kind.isType = true → ∃ other, decls.typesByName[symbol.qualifiedName]? = some other
  inPackage : ∀ {package name : String} {id : SymbolId},
    decls.packageType? package name = some id → ∃ symbol,
      table.get? id = some symbol ∧ symbol.kind.isType = true ∧
        symbol.qualifiedName = if package = "" then name else package ++ "." ++ name
  inType : ∀ {owner id : SymbolId} {decl : TypeDecl} {name : String},
    decls.types[owner]? = some decl → decl.memberTypes[name]? = some id →
      ∃ around symbol, table.get? owner = some around ∧ table.get? id = some symbol ∧
        symbol.kind.isType = true ∧
        (around.qualifiedName ≠ "" →
          symbol.qualifiedName = around.qualifiedName ++ "." ++ name)

namespace Collected

abbrev Named (state : Collected) : Prop :=
  state.decls.Named state.table

def Knows (state : Collected) (owner : Owner) : Prop :=
  ∃ symbol, state.table.get? owner.id = some symbol ∧ symbol.qualifiedName = owner.qualifiedName

theorem Later.knows {touched : Path → Prop} {first second : Collected}
    (h : first.Later touched second) {owner : Owner} (hknows : first.Knows owner) :
    second.Knows owner := by
  rcases hknows with ⟨symbol, hsymbol, hname⟩
  exact ⟨symbol, SymbolTable.get?_of_isPrefix h.table hsymbol, hname⟩

/-- A step that adds members: no type is among its symbols, and none is recorded. -/
structure Grows (touched : Path → Prop) (first second : Collected) : Prop extends
    first.Later touched second where
  kinds : ∀ {id : SymbolId} {symbol : Symbol}, first.table.size ≤ id →
    second.table.get? id = some symbol → symbol.kind.isType = false
  typesByName : second.decls.typesByName = first.decls.typesByName
  packageTypes : second.decls.packageTypes = first.decls.packageTypes
  memberTypes : ∀ id : SymbolId,
    second.decls.types[id]?.map (·.memberTypes) = first.decls.types[id]?.map (·.memberTypes)

namespace Grows

variable {touched : Path → Prop} {first second : Collected}

theorem refl (touched : Path → Prop) (state : Collected) : state.Grows touched state where
  toLater := Later.refl touched state
  kinds := by
    intro id symbol hid hsymbol
    exact absurd (SymbolTable.lt_size_iff.mpr ⟨symbol, hsymbol⟩) (Nat.not_lt.mpr hid)
  typesByName := rfl
  packageTypes := rfl
  memberTypes := fun _ => rfl

theorem named (h : first.Grows touched second) (hnamed : first.Named) : second.Named where
  byName := by
    intro name id hid
    rw [h.typesByName] at hid
    rcases hnamed.byName hid with ⟨symbol, hsymbol, hrest⟩
    exact ⟨symbol, SymbolTable.get?_of_isPrefix h.table hsymbol, hrest⟩
  listed := by
    intro id symbol hsymbol hkind
    rw [h.typesByName]
    by_cases hid : id < first.table.size
    · rcases SymbolTable.lt_size_iff.mp hid with ⟨before, hbefore⟩
      have hsame := SymbolTable.get?_of_isPrefix h.table hbefore
      rw [hsymbol] at hsame
      cases hsame
      exact hnamed.listed hbefore hkind
    · have hother := h.kinds (Nat.le_of_not_lt hid) hsymbol
      rw [hkind] at hother
      cases hother
  inPackage := by
    intro package name id hid
    unfold Declarations.packageType? at hid
    rw [h.packageTypes] at hid
    rcases hnamed.inPackage hid with ⟨symbol, hsymbol, hrest⟩
    exact ⟨symbol, SymbolTable.get?_of_isPrefix h.table hsymbol, hrest⟩
  inType := by
    intro owner id decl name hdecl hid
    have htypes := h.memberTypes owner
    rw [hdecl] at htypes
    rcases Option.map_eq_some_iff.mp htypes.symm with ⟨before, hbefore, hmembers⟩
    have hmembers : before.memberTypes = decl.memberTypes := hmembers
    rw [← hmembers] at hid
    rcases hnamed.inType hbefore hid with ⟨around, symbol, haround, hsymbol, hrest⟩
    exact ⟨around, symbol, SymbolTable.get?_of_isPrefix h.table haround,
      SymbolTable.get?_of_isPrefix h.table hsymbol, hrest⟩

end Grows

/-!
# Steps and what they record
-/

/-- A step records a list of declarations of a unit and keeps what was recorded before. -/
structure Records (unit : Nat) (touched : Path → Prop) (declared : List Declaration)
    (first second : Collected) : Prop where
  later : first.Later touched second
  named : second.Named
  signed : ∀ declaration, declaration ∈ declared → second.Signs unit declaration

namespace Records

variable {unit : Nat} {touched more : Path → Prop} {declared following : List Declaration}
variable {first second third : Collected}

theorem nil (touched : Path → Prop) {state : Collected} (hnamed : state.Named) :
    state.Records unit touched [] state :=
  ⟨Later.refl touched state, hnamed, fun _ h => by cases h⟩

theorem mono (h : first.Records unit touched declared second)
    (hmore : ∀ place, touched place → more place) : first.Records unit more declared second :=
  { h with later := h.later.mono hmore }

theorem append (h : first.Records unit touched declared second)
    (h' : second.Records unit more following third)
    (happart : ∀ declaration, declaration ∈ declared → ¬ more declaration.site.path) :
    first.Records unit (fun place => touched place ∨ more place) (declared ++ following) third where
  later := h.later.trans h'.later
  named := h'.named
  signed := by
    intro declaration hdeclaration
    rcases List.mem_append.mp hdeclaration with hbefore | hafter
    · exact h'.later.signs (h.signed declaration hbefore) (happart declaration hbefore)
    · exact h'.signed declaration hafter

theorem ofGrows (h : first.Grows touched second) (hnamed : first.Named)
    (hsigned : ∀ declaration, declaration ∈ declared → second.Signs unit declaration) :
    first.Records unit touched declared second :=
  ⟨h.toLater, h.named hnamed, hsigned⟩

/-- What is added without a node adds nothing to sign. -/
theorem thenGrows (h : first.Records unit touched declared second)
    (h' : second.Grows (fun _ => False) third) : first.Records unit touched declared third where
  later := by
    refine (h.later.trans h'.toLater).mono ?_
    rintro place (hplace | hnever)
    · exact hplace
    · cases hnever
  named := h'.named h.named
  signed := fun declaration hdeclaration =>
    h'.toLater.signs (h.signed declaration hdeclaration) not_false

end Records

end Collected

namespace Collector

open Collected

theorem records_forM {α : Type} {unit : Nat} {items : List α} {step : α → Collector Unit}
    {touched : α → Path → Prop} {declared : α → List Declaration}
    (hstep : ∀ item, item ∈ items → ∀ state : Collected, state.Named →
      state.Records unit (touched item) (declared item) ((step item).run state).2)
    (hapart : items.Pairwise fun item later =>
      ∀ declaration, declaration ∈ declared item → ¬ touched later declaration.site.path)
    (state : Collected) (hnamed : state.Named) :
    state.Records unit (fun place => ∃ item, item ∈ items ∧ touched item place)
      (items.flatMap declared) ((items.forM step).run state).2 := by
  induction items generalizing state with
  | nil => exact Records.nil _ hnamed
  | cons item rest ih =>
      rcases List.pairwise_cons.mp hapart with ⟨hfirst, hrest⟩
      have hhere := hstep item List.mem_cons_self state hnamed
      have hlater := ih (fun other hother => hstep other (List.mem_cons_of_mem item hother)) hrest
        ((step item).run state).2 hhere.named
      rw [List.flatMap_cons]
      refine (hhere.append hlater ?_).mono ?_
      · rintro declaration hdeclaration ⟨other, hother, htouched⟩
        exact hfirst other hother declaration hdeclaration htouched
      · rintro place (hplace | ⟨other, hother, hplace⟩)
        · exact ⟨item, List.mem_cons_self, hplace⟩
        · exact ⟨other, List.mem_cons_of_mem item hother, hplace⟩

/-!
# Members
-/

def AddsMembers {α : Type} (base : Collected) (touched : Path → Prop) (step : Collector α) : Prop :=
  ∀ state : Collected, base.Grows touched state → base.Grows touched (step.run state).2

namespace AddsMembers

variable {α β : Type} {base : Collected} {touched : Path → Prop}

theorem pure (value : α) : AddsMembers base touched (pure value : Collector α) :=
  fun _ hgrows => hgrows

theorem bind {step : Collector α} {next : α → Collector β} (hstep : AddsMembers base touched step)
    (hnext : ∀ state, base.Grows touched state →
      AddsMembers base touched (next (step.run state).1)) :
    AddsMembers base touched (step >>= next) :=
  fun state hgrows => hnext state hgrows _ (hstep state hgrows)

theorem andThen {step : Collector α} {next : Collector β} (hstep : AddsMembers base touched step)
    (hnext : AddsMembers base touched next) : AddsMembers base touched (step >>= fun _ => next) :=
  bind hstep fun _ _ => hnext

theorem insertSymbol {symbol : Symbol} (hkind : symbol.kind.isType = false) :
    AddsMembers base touched (Collector.insertSymbol symbol) := by
  intro state hgrows
  refine { hgrows with table := ?_, kinds := ?_ }
  · change base.table.toList <+: (state.table.insert symbol).toList
    rw [SymbolTable.toList_insert]
    exact hgrows.table.trans (List.prefix_append _ _)
  · intro id found hid hfound
    change (state.table.insert symbol).get? id = some found at hfound
    rw [SymbolTable.get?_insert] at hfound
    split at hfound
    · cases hfound
      exact hkind
    · exact hgrows.kinds hid hfound

theorem recordSite {site : Site} (id : SymbolId) (htouched : touched site.path) :
    AddsMembers base touched (Collector.recordSite site id) := by
  intro state hgrows
  refine { hgrows with sites := ?_ }
  intro place hplace
  have hne : place ≠ site.path := fun heq => hplace (heq ▸ htouched)
  exact (getElem?_insert_of_ne hne).trans (hgrows.sites place hplace)

theorem queueAnnotations (number : Nat) (site : Site) (target : SymbolId)
    (context : Option SymbolId) :
    AddsMembers base touched (Collector.queueAnnotations number site target context) :=
  fun _ hgrows => { hgrows with }

theorem recordMember {id : SymbolId} (member : MemberDecl) (hid : base.table.size ≤ id) :
    AddsMembers base touched (Collector.recordMember id member) := by
  intro state hgrows
  refine { hgrows with members := ?_ }
  intro other hother
  have hne : other ≠ id := Nat.ne_of_lt (Nat.lt_of_lt_of_le hother hid)
  exact (getElem?_insert_of_ne hne).trans (hgrows.members other hother)

theorem modifyOwner (owner : Owner) {change : TypeDecl → TypeDecl}
    (hunit : ∀ decl, (change decl).unit = decl.unit)
    (hmemberTypes : ∀ decl, (change decl).memberTypes = decl.memberTypes) :
    AddsMembers base touched (Collector.modifyOwner owner change) := by
  intro state hgrows
  exact { hgrows with
    units := fun id hid => (map_getElem?_modify _ _ hunit id).trans (hgrows.units id hid)
    memberTypes := fun id =>
      (map_getElem?_modify _ _ hmemberTypes id).trans (hgrows.memberTypes id) }

theorem mapM {step : α → Collector β} (hstep : ∀ item, AddsMembers base touched (step item))
    (items : List α) : AddsMembers base touched (items.mapM step) := by
  induction items with
  | nil => exact pure []
  | cons item rest ih =>
      rw [List.mapM_cons]
      exact bind (hstep item) fun _ _ => bind ih fun _ _ => pure _

theorem declareTypeParameters (unit : CollectingUnit) (site : Site) (owner : SymbolId) :
    AddsMembers base touched (Collector.declareTypeParameters unit site owner) := by
  apply mapM
  intro nameSite
  exact bind (insertSymbol rfl) fun _ _ => pure _

theorem declareMember (unit : CollectingUnit) {site : Site} (name : String) {kind : SymbolKind}
    (owner : Owner) (hkind : kind.isType = false) (htouched : touched site.path) :
    AddsMembers base touched (Collector.declareMember unit site name kind owner) := by
  apply bind (insertSymbol hkind)
  intro state _
  exact andThen (recordSite _ htouched) (andThen (queueAnnotations _ _ _ _) (pure _))

end AddsMembers

end Collector

namespace Collected

open Collector

variable {state : Collected} {unit : Nat} {declaration : Declaration}

theorem Signs.ofOther
    (hkind : declaration.kind = .constructor ∨ declaration.kind = .enumConstant) :
    state.Signs unit declaration := by
  constructor
  · intro htype
    rcases hkind with hkind | hkind <;> rw [hkind] at htype <;> cases htype
  · intro hmember
    rcases hkind with hkind | hkind <;> rw [hkind] at hmember <;> simp at hmember

structure Filed (state : Collected) (place : Path) (id owner : SymbolId) : Prop where
  site : state.decls.sites[place]? = some id
  symbol : ∃ symbol, state.table.get? id = some symbol ∧ symbol.owner = some owner

theorem Filed.signs {id owner : SymbolId} (h : state.Filed declaration.site.path id owner)
    (hkind : declaration.kind.isType = false) {member : MemberDecl}
    (hmember : state.decls.members[id]? = some member) (hmemberOwner : member.owner = owner)
    (htype : member.declaredType = declaredType? declaration.holder)
    (hvalue : member.valueType = none)
    (hparameters : declaration.kind = .field → member.typeParameters = []) :
    state.Signs unit declaration where
  type := by
    intro hother
    rw [hkind] at hother
    cases hother
  member := by
    intro _
    rcases h.symbol with ⟨symbol, hsymbol, howner⟩
    exact ⟨id, member, symbol, h.site, hmember, hsymbol, howner.trans (congrArg some
      hmemberOwner.symm), htype, hvalue, hparameters⟩

theorem Filed.later {later : Collected} {touched : Path → Prop} {place : Path}
    {id owner : SymbolId} (h : state.Filed place id owner) (hlater : state.Later touched later)
    (hplace : ¬ touched place) : later.Filed place id owner where
  site := (hlater.sites place hplace).trans h.site
  symbol := by
    rcases h.symbol with ⟨symbol, hsymbol, howner⟩
    exact ⟨symbol, SymbolTable.get?_of_isPrefix hlater.table hsymbol, howner⟩

end Collected

namespace Collector

open Collected

variable {unit : CollectingUnit} {owner : Owner} {state : Collected}

theorem filed_declareMember (unit : CollectingUnit) (site : Site) (name : String)
    (kind : SymbolKind) (owner : Owner) (state : Collected) :
    ((declareMember unit site name kind owner).run state).2.Filed site.path state.table.size
      owner.id where
  site := getElem?_insert_self
  symbol := ⟨_, (SymbolTable.get?_insert _ _ _).trans (if_pos rfl), rfl⟩

theorem records_declareEnumConstant (enclosing : List Site) (site : Site) (hnamed : state.Named) :
    state.Records unit.unit (site.path <:+ ·)
      (Declaration.ofNamed enclosing .enumConstant site)
      ((declareEnumConstant unit owner site).run state).2 := by
  have hgrows : AddsMembers state (site.path <:+ ·) (declareEnumConstant unit owner site) := by
    unfold declareEnumConstant
    cases site.child? .name with
    | none => exact AddsMembers.pure ()
    | some nameSite =>
        apply AddsMembers.bind (AddsMembers.declareMember unit _ owner rfl (List.suffix_refl _))
        intro middle hmiddle
        exact AddsMembers.andThen (AddsMembers.recordMember _ hmiddle.size_le)
          (AddsMembers.modifyOwner owner (fun _ => rfl) fun _ => rfl)
  refine Records.ofGrows (hgrows state (Grows.refl _ state)) hnamed ?_
  intro declaration hdeclaration
  rcases List.mem_map.mp hdeclaration with ⟨_, _, rfl⟩
  exact Signs.ofOther (Or.inr rfl)

theorem records_declareConstructor (enclosing : List Site) (site : Site) (hnamed : state.Named) :
    state.Records unit.unit (site.path <:+ ·) (Declaration.ofConstructor enclosing site)
      ((declareConstructor unit owner site).run state).2 := by
  have hgrows : AddsMembers state (site.path <:+ ·) (declareConstructor unit owner site) := by
    apply AddsMembers.bind (AddsMembers.declareMember unit _ owner rfl (List.suffix_refl _))
    intro middle hmiddle
    refine AddsMembers.bind (fun _ hgrows => hgrows) fun _ _ => ?_
    apply AddsMembers.bind (AddsMembers.declareTypeParameters unit site _)
    intro _ _
    exact AddsMembers.andThen (AddsMembers.recordMember _ hmiddle.size_le)
      (AddsMembers.modifyOwner owner (fun _ => rfl) fun _ => rfl)
  refine Records.ofGrows (hgrows state (Grows.refl _ state)) hnamed ?_
  intro declaration hdeclaration
  rw [List.mem_singleton.mp hdeclaration]
  exact Signs.ofOther (Or.inl rfl)

theorem records_declareMethod (enclosing : List Site) (site : Site) (hnamed : state.Named) :
    state.Records unit.unit (site.path <:+ ·) (Declaration.ofNamed enclosing .method site)
      ((declareMethod unit owner site).run state).2 := by
  unfold declareMethod Declaration.ofNamed
  cases site.child? .name with
  | none => exact Records.nil _ hnamed
  | some nameSite =>
      refine Records.ofGrows ?_ hnamed ?_
      · refine AddsMembers.bind
          (AddsMembers.declareMember unit _ owner rfl (List.suffix_refl _)) ?_ state
          (Grows.refl _ state)
        intro middle hmiddle
        apply AddsMembers.bind (AddsMembers.declareTypeParameters unit site _)
        intro _ _
        exact AddsMembers.andThen (AddsMembers.recordMember _ hmiddle.size_le)
          (AddsMembers.modifyOwner owner (fun _ => rfl) fun _ => rfl)
      · intro declaration hdeclaration
        rw [List.mem_singleton.mp hdeclaration]
        have hfiled := filed_declareMember unit site nameSite.text .method owner state
        have hquiet := AddsMembers.declareTypeParameters unit site state.table.size _
          (Grows.refl (fun _ => False) ((declareMember unit site nameSite.text .method owner).run
            state).2)
        have hlater := hfiled.later hquiet.toLater not_false
        exact Filed.signs ⟨hlater.site, hlater.symbol⟩ rfl getElem?_insert_self rfl rfl rfl
          (fun hfield => by cases hfield)

theorem records_declareComponent (enclosing : List Site) (site : Site) (hnamed : state.Named) :
    state.Records unit.unit (site.path <:+ ·) (Declaration.ofNamed enclosing .field site)
      ((declareComponent unit owner site).run state).2 := by
  unfold declareComponent Declaration.ofNamed
  cases site.child? .name with
  | none => exact Records.nil _ hnamed
  | some nameSite =>
      refine Records.ofGrows ?_ hnamed ?_
      · refine AddsMembers.bind
          (AddsMembers.declareMember unit _ owner rfl (List.suffix_refl _)) ?_ state
          (Grows.refl _ state)
        intro middle hmiddle
        apply AddsMembers.bind (AddsMembers.insertSymbol rfl)
        intro later hlater
        exact AddsMembers.andThen (AddsMembers.recordMember _ hmiddle.size_le)
          (AddsMembers.andThen (AddsMembers.recordMember _ hlater.size_le)
            (AddsMembers.modifyOwner owner (fun _ => rfl) fun _ => rfl))
      · intro declaration hdeclaration
        rw [List.mem_singleton.mp hdeclaration]
        let accessor : Symbol := {
          name := nameSite.text, qualifiedName := nameSite.text, package := unit.package
          kind := .method, owner := some owner.id }
        let middle := ((declareMember unit site nameSite.text .field owner).run state).2
        have hfiled : middle.Filed site.path state.table.size owner.id :=
          filed_declareMember unit site nameSite.text .field owner state
        have hquiet : middle.Grows (fun _ => False) ((insertSymbol accessor).run middle).2 :=
          AddsMembers.insertSymbol rfl middle (Grows.refl _ middle)
        have hlater := hfiled.later hquiet.toLater not_false
        have hne : state.table.size ≠ middle.table.size := by
          change _ ≠ (state.table.insert _).size
          rw [SymbolTable.size_insert]
          exact Nat.ne_of_lt (Nat.lt_succ_self _)
        exact Filed.signs ⟨hlater.site, hlater.symbol⟩ rfl
          ((getElem?_insert_of_ne hne).trans getElem?_insert_self) rfl rfl rfl fun _ => rfl

theorem records_declareFields (enclosing : List Site) (site : Site) (hnamed : state.Named) :
    state.Records unit.unit (site.path <:+ ·) (Declaration.ofFields enclosing site)
      ((declareFields unit owner site).run state).2 := by
  -- A declarator touches the node of the whole declaration too, but no other declarator.
  let touched (declarator : Site) (place : Path) : Prop :=
    place = site.path ∨ place = declarator.path
  have hpath : ∀ declarator, declarator ∈ site.childrenIn .declarator →
      ∃ i, declarator.path = i :: site.path := by
    intro declarator hdeclarator
    rcases Site.path_of_mem_children (Site.mem_children_of_mem_childrenIn hdeclarator) with
      ⟨i, _, hpath⟩
    exact ⟨i, hpath⟩
  suffices hrecords : state.Records unit.unit
      (fun place => ∃ declarator, declarator ∈ site.childrenIn .declarator ∧
        touched declarator place)
      (Declaration.ofFields enclosing site) ((declareFields unit owner site).run state).2 by
    apply hrecords.mono
    rintro place ⟨declarator, hdeclarator, hplace | hplace⟩
    · exact hplace ▸ List.suffix_refl _
    · rcases hpath declarator hdeclarator with ⟨i, hi⟩
      rw [hplace, hi]
      exact List.suffix_cons i site.path
  refine records_forM ?_ ?_ state hnamed
  · intro declarator hdeclarator before hbefore
    cases declarator.child? .name with
    | none => exact Records.nil _ hbefore
    | some nameSite =>
        refine Records.ofGrows ?_ hbefore ?_
        · refine AddsMembers.bind
            (AddsMembers.declareMember unit _ owner rfl (Or.inl rfl)) ?_ before
            (Grows.refl _ before)
          intro middle hmiddle
          exact AddsMembers.andThen (AddsMembers.recordSite _ (Or.inr rfl))
            (AddsMembers.andThen (AddsMembers.recordMember _ hmiddle.size_le)
              (AddsMembers.modifyOwner owner (fun _ => rfl) fun _ => rfl))
        · intro declaration hdeclaration
          rw [List.mem_singleton.mp hdeclaration]
          have hfiled := filed_declareMember unit site nameSite.text .field owner before
          exact Filed.signs ⟨getElem?_insert_self, hfiled.symbol⟩ rfl getElem?_insert_self rfl rfl
            rfl fun _ => rfl
  · refine (site.pairwise_children.filter _).imp_of_mem ?_
    intro first second hfirst _ hpaths declaration hdeclaration htouched
    rcases List.mem_map.mp hdeclaration with ⟨_, _, rfl⟩
    rcases htouched with hholder | hsite
    · rcases hpath first hfirst with ⟨i, hi⟩
      exact List.cons_ne_self i site.path (hi.symm.trans hholder)
    · exact hpaths hsite

theorem records_declareComponents (enclosing : List Site) (site : Site) (hnamed : state.Named) :
    state.Records unit.unit
      (fun place => ∃ i list, site.node.children[i]? = some list ∧ list.role = some .parameters ∧
        (i :: site.path) <:+ place)
      (Declaration.ofComponents enclosing site)
      ((declareComponents unit owner site).run state).2 := by
  unfold declareComponents Declaration.ofComponents
  cases hlist : site.child? .parameters with
  | none => exact Records.nil _ hnamed
  | some list =>
      rcases Site.path_of_mem_children (Site.mem_children_of_child? hlist) with ⟨i, hnode, hpath⟩
      have hbelow : ∀ component, component ∈ list.namedChildren →
          ∃ j, component.path = j :: list.path := by
        intro component hcomponent
        rcases Site.path_of_mem_children (Site.mem_children_of_mem_namedChildren hcomponent) with
          ⟨j, _, hj⟩
        exact ⟨j, hj⟩
      refine (records_forM (fun component _ before hbefore =>
        records_declareComponent enclosing component hbefore) ?_ state hnamed).mono ?_
      · refine (list.pairwise_children.filter _).imp_of_mem ?_
        intro first second hfirst hsecond hpaths declaration hdeclaration hbelow'
        rcases hbelow first hfirst with ⟨j, hj⟩
        rcases hbelow second hsecond with ⟨k, hk⟩
        rw [(Declaration.own_of_mem_ofNamed hdeclaration).1, hj, hk] at hbelow'
        rw [hj, hk] at hpaths
        exact hpaths (congrArg (· :: list.path)
          (Path.eq_of_cons_suffix hbelow' (List.suffix_refl _)).symm)
      · rintro place ⟨component, hcomponent, hplace⟩
        rcases hbelow component hcomponent with ⟨j, hj⟩
        refine ⟨i, list.node, hnode, Site.role_of_child? hlist, ?_⟩
        rw [← hpath]
        rw [hj] at hplace
        exact (List.suffix_cons j list.path).trans hplace

theorem grows_finishType (kind : NodeKind) (touched : Path → Prop) :
    state.Grows touched ((finishType unit owner kind).run state).2 := by
  have hadds : AddsMembers state touched (finishType unit owner kind) := by
    unfold finishType
    split
    · refine AddsMembers.bind (fun _ hgrows => hgrows) fun _ _ => ?_
      split
      · refine AddsMembers.bind (fun _ hgrows => hgrows) fun _ _ => ?_
        apply AddsMembers.bind (AddsMembers.insertSymbol rfl)
        intro middle hmiddle
        exact AddsMembers.andThen (AddsMembers.recordMember _ hmiddle.size_le)
          (AddsMembers.modifyOwner owner (fun _ => rfl) fun _ => rfl)
      · exact AddsMembers.pure ()
    · exact AddsMembers.pure ()
  exact hadds state (Grows.refl touched state)

end Collector

end RestrictedApi
