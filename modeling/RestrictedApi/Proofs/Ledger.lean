import RestrictedApi.Proofs.Collected
import RestrictedApi.Proofs.Declaration

/-!
# The ledger of a collecting pass

What a step of the collecting pass does to the state is told by a list of entries, one for each
symbol that it appends: the symbol, the declaration that it stands for, and the types around it.
The table, the queue of annotations and the record of declaring nodes grow by what the entries say,
in their order.  A symbol without a declaration is one that a declaration brings along: a type
parameter, an accessor or a constructor that is not written.
-/

namespace RestrictedApi

/-- The names of the annotations on a declaration as written.  Those without a name do not count. -/
def Site.annotationNames (site : Site) : List DottedName :=
  (site.annotations.map Site.annotationName).filter (· ≠ [])

def Declarations.outer? (decls : Declarations) (id : SymbolId) : Option (Option SymbolId) :=
  decls.types[id]?.map (·.outer)

structure Entry where
  id : SymbolId
  symbol : Symbol
  declaration : Option Declaration := none
  /-- The types around, innermost first. -/
  chain : List SymbolId := []

namespace Entry

def owner (entry : Entry) : Owner :=
  ⟨entry.id, entry.symbol.qualifiedName⟩

def records (entry : Entry) : List (Path × SymbolId) :=
  (entry.declaration.map fun declaration =>
    declaration.recorded.map fun path => (path, entry.id)).getD []

def queue (unit : Nat) (entry : Entry) : List PendingAnnotation :=
  (entry.declaration.map fun declaration =>
    declaration.holder.annotationNames.map fun name =>
      { target := entry.id, unit, context := entry.chain.head?, name }).getD []

def chainWithin (outer : Option Entry) : List SymbolId :=
  (outer.map fun entry => entry.id :: entry.chain).getD []

def sitesWithin (outer : Option Entry) : List Site :=
  ((outer.bind (·.declaration)).map fun declaration =>
    declaration.site :: declaration.enclosing).getD []

def IsType (entry : Entry) : Prop :=
  entry.symbol.kind.isType = true ∧ ∃ declaration, entry.declaration = some declaration

end Entry

def SymbolKind.isMember : SymbolKind → Bool
  | .field | .method | .constructor | .enumConstant => true
  | _ => false

theorem SymbolKind.isType_of_isMember {kind : SymbolKind} (hkind : kind.isMember = true) :
    kind.isType = false := by
  revert hkind
  cases kind <;> decide

/-- How an entry fits in: types stand in types or outside, members in types, and type parameters
belong to an earlier symbol. -/
inductive Entry.Placed (unit : CollectingUnit) (known : List Entry) (entry : Entry) : Prop where
  | type (outer : Option Entry) (declaration : Declaration) :
      (∀ around, outer = some around → around ∈ known ∧ around.IsType ∧ around.id < entry.id) →
      entry.declaration = some declaration →
      declaration.enclosing = Entry.sitesWithin outer →
      entry.chain = Entry.chainWithin outer →
      declaration.kind.isType = true →
      entry.symbol = {
        name := declaration.name
        qualifiedName := Collector.qualifiedTypeName unit (outer.map Entry.owner) declaration.name
        package := unit.package, kind := declaration.kind
        owner := outer.map (·.id) <|> unit.packageSymbol } →
      Placed unit known entry
  | member (outer : Entry) (name : String) (kind : SymbolKind) :
      outer ∈ known → outer.IsType → outer.id < entry.id →
      (∀ declaration, entry.declaration = some declaration →
        declaration.enclosing = Entry.sitesWithin (some outer) ∧ declaration.name = name ∧
          declaration.kind = kind) →
      entry.chain = Entry.chainWithin (some outer) →
      kind.isMember = true →
      entry.symbol = {
        name, qualifiedName := name, package := unit.package, kind, owner := some outer.id } →
      Placed unit known entry
  | typeParameter (name : String) (owner : SymbolId) :
      owner < entry.id →
      entry.declaration = none →
      entry.symbol = {
        name, qualifiedName := name, package := unit.package, kind := .typeParameter
        owner := some owner } →
      Placed unit known entry

theorem Entry.Placed.mono {unit : CollectingUnit} {known more : List Entry} {entry : Entry}
    (h : entry.Placed unit known) (hmore : ∀ other, other ∈ known → other ∈ more) :
    entry.Placed unit more := by
  cases h with
  | type outer declaration houter hdeclaration henclosing hchain hkind hsymbol =>
      refine .type outer declaration ?_ hdeclaration henclosing hchain hkind hsymbol
      intro around haround
      rcases houter around haround with ⟨hknown, hrest⟩
      exact ⟨hmore around hknown, hrest⟩
  | member outer name kind hknown htype hbefore hdeclaration hchain hkind hsymbol =>
      exact .member outer name kind (hmore outer hknown) htype hbefore hdeclaration hchain hkind
        hsymbol
  | typeParameter name owner hbefore hdeclaration hsymbol =>
      exact .typeParameter name owner hbefore hdeclaration hsymbol

/-!
# What entries add to a state
-/

/-- The second state is the first one with what the entries say. -/
structure Collected.Adds (unit : Nat) (first : Collected) (entries : List Entry)
    (second : Collected) : Prop where
  table : second.table.toList = first.table.toList ++ entries.map (·.symbol)
  ids : entries.map (·.id) = List.range' first.table.size entries.length
  sites : second.decls.sites =
    (entries.flatMap Entry.records).foldl (fun sites record => sites.insert record.1 record.2)
      first.decls.sites
  pending : second.decls.pending.toList =
    first.decls.pending.toList ++ entries.flatMap (Entry.queue unit)
  packages : second.decls.packages = first.decls.packages
  outerOld : ∀ {id}, id < first.table.size → second.decls.outer? id = first.decls.outer? id
  outerNew : ∀ {entry}, entry ∈ entries → entry.symbol.kind.isType = true →
    second.decls.outer? entry.id = some entry.chain.head?

namespace Collected.Adds

variable {unit : Nat} {first second third : Collected} {entries more : List Entry}

theorem quiet (htable : second.table = first.table)
    (hsites : second.decls.sites = first.decls.sites)
    (hpending : second.decls.pending = first.decls.pending)
    (hpackages : second.decls.packages = first.decls.packages)
    (houter : ∀ id, second.decls.outer? id = first.decls.outer? id) :
    first.Adds unit [] second where
  table := by rw [htable, List.map_nil, List.append_nil]
  ids := rfl
  sites := hsites
  pending := by rw [hpending, List.flatMap_nil, List.append_nil]
  packages := hpackages
  outerOld := fun _ => houter _
  outerNew := fun hmem => by cases hmem

theorem refl (unit : Nat) (state : Collected) : state.Adds unit [] state :=
  quiet rfl rfl rfl rfl fun _ => rfl

theorem size (h : first.Adds unit entries second) :
    second.table.size = first.table.size + entries.length := by
  rw [← SymbolTable.length_toList, h.table, List.length_append, List.length_map,
    SymbolTable.length_toList]

theorem size_le (h : first.Adds unit entries second) : first.table.size ≤ second.table.size := by
  rw [h.size]
  exact Nat.le_add_right _ _

theorem id_bounds (h : first.Adds unit entries second) {entry : Entry} (hentry : entry ∈ entries) :
    first.table.size ≤ entry.id ∧ entry.id < second.table.size := by
  have hid : entry.id ∈ entries.map (·.id) := List.mem_map_of_mem hentry
  rw [h.ids, List.mem_range'_1, ← h.size] at hid
  exact hid

theorem append (h : first.Adds unit entries second) (h' : second.Adds unit more third) :
    first.Adds unit (entries ++ more) third where
  table := by rw [h'.table, h.table, List.map_append, List.append_assoc]
  ids := by
    rw [List.map_append, h.ids, h'.ids, h.size, List.length_append]
    exact List.range'_append_1
  sites := by rw [h'.sites, h.sites, List.flatMap_append, List.foldl_append]
  pending := by rw [h'.pending, h.pending, List.flatMap_append, List.append_assoc]
  packages := h'.packages.trans h.packages
  outerOld := fun hid => (h'.outerOld (Nat.lt_of_lt_of_le hid h.size_le)).trans (h.outerOld hid)
  outerNew := by
    intro entry hentry htype
    rcases List.mem_append.mp hentry with hold | hnew
    · rw [h'.outerOld (h.id_bounds hold).2, h.outerNew hold htype]
    · exact h'.outerNew hnew htype

theorem get (h : first.Adds unit entries second) {entry : Entry} (hentry : entry ∈ entries) :
    second.table.get? entry.id = some entry.symbol := by
  rcases List.mem_iff_getElem?.mp hentry with ⟨i, hi⟩
  have hids : (entries.map (·.id))[i]? = some entry.id := by rw [List.getElem?_map, hi]; rfl
  rw [h.ids, List.getElem?_range' (List.getElem?_eq_some_iff.mp hi).1] at hids
  have hid : entry.id = first.table.toList.length + i := by
    rw [SymbolTable.length_toList]
    simpa using (Option.some.inj hids).symm
  rw [← SymbolTable.getElem?_toList, h.table, hid,
    List.getElem?_append_right (Nat.le_add_right _ _), Nat.add_sub_cancel_left,
    List.getElem?_map, hi]
  rfl

theorem ofEntry {entry : Entry} (hid : entry.id = first.table.size)
    (hkind : entry.symbol.kind.isType = false)
    (htable : second.table = first.table.insert entry.symbol)
    (hsites : second.decls.sites =
      entry.records.foldl (fun sites record => sites.insert record.1 record.2) first.decls.sites)
    (hpending : second.decls.pending = first.decls.pending ++ (entry.queue unit).toArray)
    (hpackages : second.decls.packages = first.decls.packages)
    (htypes : second.decls.types = first.decls.types) : first.Adds unit [entry] second where
  table := by rw [htable, SymbolTable.toList_insert, List.map_singleton]
  ids := by rw [List.map_singleton, hid]; rfl
  sites := by rw [hsites, List.flatMap_singleton]
  pending := by rw [hpending, Array.toList_append, List.flatMap_singleton]
  packages := hpackages
  outerOld := fun _ => by rw [Declarations.outer?, htypes, Declarations.outer?]
  outerNew := by
    intro other hother htype
    rw [List.mem_singleton.mp hother, hkind] at htype
    cases htype

end Collected.Adds

/-!
# Steps and their entries
-/

/-- Entries that stand for a list of declarations, in their order, within a type or outside. -/
def Entered (unit : CollectingUnit) (outer : Option Entry) (declared : List Declaration)
    (entries : List Entry) : Prop :=
  entries.filterMap (·.declaration) = declared ∧
    ∀ entry, entry ∈ entries → entry.Placed unit (outer.toList ++ entries)

namespace Entered

variable {unit : CollectingUnit} {outer : Option Entry} {declared later : List Declaration}
variable {entries more : List Entry}

theorem nil (unit : CollectingUnit) (outer : Option Entry) : Entered unit outer [] [] :=
  ⟨rfl, fun _ hentry => by cases hentry⟩

theorem append (h : Entered unit outer declared entries) (h' : Entered unit outer later more) :
    Entered unit outer (declared ++ later) (entries ++ more) := by
  refine ⟨by rw [List.filterMap_append, h.1, h'.1], ?_⟩
  intro entry hentry
  rcases List.mem_append.mp hentry with hfirst | hsecond
  · apply (h.2 entry hfirst).mono
    intro other hother
    rcases List.mem_append.mp hother with houter | hentries
    · exact List.mem_append_left _ houter
    · exact List.mem_append_right _ (List.mem_append_left _ hentries)
  · apply (h'.2 entry hsecond).mono
    intro other hother
    rcases List.mem_append.mp hother with houter | hmore
    · exact List.mem_append_left _ houter
    · exact List.mem_append_right _ (List.mem_append_right _ hmore)

theorem cons {type : Entry} {declaration : Declaration}
    (htype : Entered unit outer [declaration] [type])
    (hentries : Entered unit (some type) declared entries) :
    Entered unit outer (declaration :: declared) (type :: entries) := by
  refine ⟨?_, ?_⟩
  · have hfirst := htype.1
    rw [List.filterMap_cons] at hfirst ⊢
    cases hdeclaration : type.declaration with
    | none =>
        rw [hdeclaration] at hfirst
        cases hfirst
    | some found =>
        rw [hdeclaration] at hfirst
        rw [hentries.1, (List.cons.inj hfirst).1]
  · intro entry hentry
    rcases List.mem_cons.mp hentry with heq | hrest
    · rw [heq]
      apply (htype.2 type (List.mem_singleton.mpr rfl)).mono
      intro other hother
      rcases List.mem_append.mp hother with houter | hself
      · exact List.mem_append_left _ houter
      · rw [List.mem_singleton.mp hself]
        exact List.mem_append_right _ List.mem_cons_self
    · apply (hentries.2 entry hrest).mono
      intro other hother
      exact List.mem_append_right _ hother

theorem ofParameters {parameters : List Entry}
    (hparameters : ∀ entry, entry ∈ parameters →
      entry.declaration = none ∧ entry.Placed unit []) :
    Entered unit outer [] parameters := by
  refine ⟨?_, ?_⟩
  · rw [List.filterMap_eq_nil_iff]
    exact fun entry hentry => (hparameters entry hentry).1
  · intro entry hentry
    exact (hparameters entry hentry).2.mono fun other hother => by cases hother

end Entered

namespace Collector

/-- A step adds entries, of which something is known together with what it returns.  The table has
at least the given size before. -/
def Enters {α : Type} (unit size : Nat) (step : Collector α) (result : α → List Entry → Prop) :
    Prop :=
  ∀ state : Collected, size ≤ state.table.size →
    ∃ entries, state.Adds unit entries (step.run state).2 ∧ result (step.run state).1 entries

namespace Enters

variable {α β : Type} {unit size : Nat}
variable {result : α → List Entry → Prop} {final : β → List Entry → Prop}

theorem pure {value : α} (hvalue : result value []) : Enters unit size (pure value) result :=
  fun state _ => ⟨[], Collected.Adds.refl unit state, hvalue⟩

theorem imp {step : Collector α} {weaker : α → List Entry → Prop}
    (hstep : Enters unit size step result)
    (hweaker : ∀ value entries, result value entries → weaker value entries) :
    Enters unit size step weaker := by
  intro state hstate
  rcases hstep state hstate with ⟨entries, hadds, hresult⟩
  exact ⟨entries, hadds, hweaker _ _ hresult⟩

theorem bind {step : Collector α} {next : α → Collector β} (hstep : Enters unit size step result)
    (hnext : ∀ value entries larger, size ≤ larger → result value entries →
      (∀ entry, entry ∈ entries → size ≤ entry.id ∧ entry.id < larger) →
      Enters unit larger (next value) fun value more => final value (entries ++ more)) :
    Enters unit size (step >>= next) final := by
  intro state hstate
  rcases hstep state hstate with ⟨entries, hadds, hresult⟩
  have hbounds : ∀ entry, entry ∈ entries →
      size ≤ entry.id ∧ entry.id < (step.run state).2.table.size := by
    intro entry hentry
    have hid := hadds.id_bounds hentry
    exact ⟨Nat.le_trans hstate hid.1, hid.2⟩
  have hlarger := Nat.le_trans hstate hadds.size_le
  rcases hnext _ entries _ hlarger hresult hbounds _ (Nat.le_refl _) with ⟨more, hmore, hfinal⟩
  exact ⟨entries ++ more, hadds.append hmore, hfinal⟩

theorem bind_get {next : Collected → Collector β}
    (hnext : ∀ seen, Enters unit size (next seen) final) : Enters unit size (get >>= next) final :=
  fun state hstate => hnext state state hstate

theorem quiet {change : Declarations → Declarations}
    (hsites : ∀ decls, (change decls).sites = decls.sites)
    (hpending : ∀ decls, (change decls).pending = decls.pending)
    (hpackages : ∀ decls, (change decls).packages = decls.packages)
    (houter : ∀ decls id, (change decls).outer? id = decls.outer? id) :
    Enters unit size (modifyDecls change) fun _ entries => entries = [] :=
  fun _ _ =>
    ⟨[], Collected.Adds.quiet rfl (hsites _) (hpending _) (hpackages _) (houter _), rfl⟩

theorem recordMember (id : SymbolId) (member : MemberDecl) :
    Enters unit size (Collector.recordMember id member) fun _ entries => entries = [] :=
  quiet (fun _ => rfl) (fun _ => rfl) (fun _ => rfl) fun _ _ => rfl

end Enters

end Collector

theorem Declarations.outer_modifyType (decls : Declarations) (type : SymbolId)
    {change : TypeDecl → TypeDecl} (hchange : ∀ decl, (change decl).outer = decl.outer)
    (id : SymbolId) : (decls.modifyType type change).outer? id = decls.outer? id := by
  change (decls.types.modify type change)[id]?.map (·.outer) = decls.types[id]?.map (·.outer)
  rw [Std.TreeMap.getElem?_modify]
  split
  · rename_i heq
    rw [Std.compare_eq_iff_eq.mp heq, Option.map_map]
    exact congrArg (Option.map · _) (funext hchange)
  · rfl

namespace Collector.Enters

variable {unit : CollectingUnit} {size : Nat}

theorem modifyOwner {number : Nat} (owner : Owner) {change : TypeDecl → TypeDecl}
    (hchange : ∀ decl, (change decl).outer = decl.outer) :
    Enters number size (Collector.modifyOwner owner change) fun _ entries => entries = [] :=
  quiet (fun _ => rfl) (fun _ => rfl) (fun _ => rfl) fun decls id =>
    decls.outer_modifyType owner.id hchange id

theorem afterQuiet {number : Nat} {step next : Collector Unit} {result : List Entry → Prop}
    (hstep : Enters number size step fun _ entries => entries = [])
    (hnext : ∀ larger, size ≤ larger → Enters number larger next fun _ entries => result entries) :
    Enters number size (step >>= fun _ => next) fun _ entries => result entries := by
  apply Enters.bind hstep
  intro _ entries larger hlarger hentries _
  rw [hentries]
  exact hnext larger hlarger

theorem append {number : Nat} {outer : Option Entry} {step next : Collector Unit}
    {declared later : List Declaration}
    (hstep : Enters number size step fun _ => Entered unit outer declared)
    (hnext : ∀ larger, size ≤ larger →
      Enters number larger next fun _ => Entered unit outer later) :
    Enters number size (step >>= fun _ => next)
      fun _ => Entered unit outer (declared ++ later) := by
  apply Enters.bind hstep
  intro _ entries larger hlarger hentries _
  exact (hnext larger hlarger).imp fun _ more hmore => hentries.append hmore

theorem forM {number : Nat} {outer : Option Entry} {α : Type} {items : List α}
    {step : α → Collector Unit} {declared : α → List Declaration}
    (hstep : ∀ item, item ∈ items → ∀ larger, size ≤ larger →
      Enters number larger (step item) fun _ => Entered unit outer (declared item)) :
    Enters number size (items.forM step) fun _ =>
      Entered unit outer (items.flatMap declared) := by
  induction items generalizing size with
  | nil => exact Enters.pure (Entered.nil unit outer)
  | cons item rest ih =>
      change Enters number size (step item >>= fun _ => rest.forM step) _
      rw [List.flatMap_cons]
      apply Enters.append (hstep item List.mem_cons_self size (Nat.le_refl _))
      intro larger hlarger
      apply ih
      intro other hother further hfurther
      exact hstep other (List.mem_cons_of_mem item hother) further (Nat.le_trans hlarger hfurther)

end Collector.Enters

/-!
# Members
-/

namespace Collector.Enters

variable {unit : CollectingUnit} {number size : Nat}

theorem insertSymbol {symbol : Symbol} (chain : List SymbolId)
    (hkind : symbol.kind.isType = false) :
    Enters number size (Collector.insertSymbol symbol) fun id entries =>
      entries = [⟨id, symbol, none, chain⟩] :=
  fun _ _ => ⟨_, Collected.Adds.ofEntry rfl hkind rfl rfl rfl rfl rfl, rfl⟩

theorem mapM {α β : Type} {items : List α} {step : α → Collector β} {holds : Entry → Prop}
    (hstep : ∀ item larger, size ≤ larger →
      Enters number larger (step item) fun _ entries => ∀ entry, entry ∈ entries → holds entry) :
    Enters number size (items.mapM step) fun _ entries =>
      ∀ entry, entry ∈ entries → holds entry := by
  induction items generalizing size with
  | nil => exact Enters.pure fun _ hentry => by cases hentry
  | cons item rest ih =>
      rw [List.mapM_cons]
      apply Enters.bind (hstep item size (Nat.le_refl _))
      intro _ entries larger hlarger hentries _
      apply Enters.bind (ih fun other further hfurther =>
        hstep other further (Nat.le_trans hlarger hfurther))
      intro _ more further _ hmore _
      apply Enters.pure
      intro entry hentry
      rw [List.append_nil] at hentry
      rcases List.mem_append.mp hentry with hfirst | hsecond
      · exact hentries entry hfirst
      · exact hmore entry hsecond

theorem declareTypeParameters (site : Site) {owner : SymbolId} (howner : owner < size) :
    Enters number size (Collector.declareTypeParameters unit site owner) fun _ entries =>
      ∀ entry, entry ∈ entries → entry.declaration = none ∧ entry.Placed unit [] := by
  apply Enters.mapM
  intro nameSite larger hlarger
  apply Enters.bind (Enters.insertSymbol [] rfl)
  intro id entries further _ hentries hbounds
  apply Enters.pure
  intro entry hentry
  rw [List.append_nil] at hentry
  have hbefore := Nat.lt_of_lt_of_le (Nat.lt_of_lt_of_le howner hlarger) (hbounds entry hentry).1
  rw [hentries, List.mem_singleton] at hentry
  rw [hentry] at hbefore ⊢
  exact ⟨rfl, .typeParameter nameSite.text owner hbefore rfl rfl⟩

def memberEntry (unit : CollectingUnit) (outer : Entry) (declaration : Declaration)
    (id : SymbolId) : Entry where
  id := id
  symbol := {
    name := declaration.name, qualifiedName := declaration.name, package := unit.package
    kind := declaration.kind, owner := some outer.id }
  declaration := some declaration
  chain := Entry.chainWithin (some outer)

theorem entered_member {outer : Entry} {declaration : Declaration} {id : SymbolId}
    (houter : outer.IsType) (hbefore : outer.id < id)
    (hkind : declaration.kind.isMember = true)
    (henclosing : declaration.enclosing = Entry.sitesWithin (some outer)) :
    Entered unit (some outer) [declaration] [memberEntry unit outer declaration id] := by
  refine ⟨rfl, ?_⟩
  intro entry hentry
  rw [List.mem_singleton.mp hentry]
  refine .member outer declaration.name declaration.kind List.mem_cons_self houter hbefore ?_ rfl
    hkind rfl
  intro found hfound
  cases hfound
  exact ⟨henclosing, rfl, rfl⟩

theorem declareMember (outer : Entry) (declaration : Declaration)
    (hown : declaration.holder = declaration.site) (hkind : declaration.kind.isMember = true) :
    Enters unit.unit size
      (Collector.declareMember unit declaration.site declaration.name declaration.kind outer.owner)
      fun id entries => entries = [memberEntry unit outer declaration id] := by
  intro state _
  have htype := SymbolKind.isType_of_isMember hkind
  refine ⟨_, Collected.Adds.ofEntry rfl htype rfl ?_ ?_ rfl rfl, rfl⟩
  · change _ = (declaration.recorded.map _).foldl _ _
    rw [Declaration.recorded_of_own hown]
    rfl
  · change _ = _ ++ (declaration.holder.annotationNames.map _).toArray
    rw [hown]
    rfl

theorem declareField (outer : Entry) (declaration : Declaration)
    (hshared : declaration.holder.path ≠ declaration.site.path)
    (hkind : declaration.kind.isMember = true) :
    Enters unit.unit size (do
      let id ← Collector.declareMember unit declaration.holder declaration.name declaration.kind
        outer.owner
      Collector.recordSite declaration.site id
      return id)
      fun id entries => entries = [memberEntry unit outer declaration id] := by
  intro state _
  have htype := SymbolKind.isType_of_isMember hkind
  refine ⟨_, Collected.Adds.ofEntry rfl htype rfl ?_ rfl rfl rfl, rfl⟩
  change _ = (declaration.recorded.map _).foldl _ _
  rw [Declaration.recorded, if_neg hshared]
  rfl

theorem completeMember {outer : Entry} (declaration : Declaration) {step : Collector SymbolId}
    {next : SymbolId → Collector Unit} (houter : outer.IsType) (hbefore : outer.id < size)
    (hkind : declaration.kind.isMember = true)
    (henclosing : declaration.enclosing = Entry.sitesWithin (some outer))
    (hstep : Enters number size step fun id entries =>
      entries = [memberEntry unit outer declaration id])
    (hnext : ∀ id larger, size ≤ larger → id < larger →
      Enters number larger (next id) fun _ => Entered unit (some outer) []) :
    Enters number size (step >>= next) fun _ => Entered unit (some outer) [declaration] := by
  apply Enters.bind hstep
  intro id entries larger hlarger hentries hbounds
  have hid := hbounds (memberEntry unit outer declaration id)
    (by rw [hentries]; exact List.mem_cons_self)
  have hmember : Entered unit (some outer) [declaration] entries := by
    rw [hentries]
    exact entered_member houter (Nat.lt_of_lt_of_le hbefore hid.1) hkind henclosing
  refine (hnext id larger hlarger hid.2).imp fun _ more hmore => ?_
  exact hmember.append hmore

theorem recordAs {outer : Option Entry} {owner : Owner} {id : SymbolId} (member : MemberDecl)
    {change : TypeDecl → TypeDecl} (hchange : ∀ decl, (change decl).outer = decl.outer) :
    Enters number size (do
      Collector.recordMember id member
      Collector.modifyOwner owner change) fun _ => Entered unit outer [] := by
  apply Enters.afterQuiet (Enters.recordMember id member)
  intro larger _
  apply (Enters.modifyOwner owner hchange).imp
  intro _ entries hentries
  rw [hentries]
  exact Entered.nil unit outer

theorem afterParameters {outer : Option Entry} (site : Site) {owner : SymbolId}
    {next : TypeParameters → Collector Unit} (howner : owner < size)
    (hnext : ∀ parameters larger, size ≤ larger →
      Enters number larger (next parameters) fun _ => Entered unit outer []) :
    Enters number size (Collector.declareTypeParameters unit site owner >>= next) fun _ =>
      Entered unit outer [] := by
  apply Enters.bind (Enters.declareTypeParameters site howner)
  intro parameters entries larger hlarger hentries _
  refine (hnext parameters larger hlarger).imp fun _ more hmore => ?_
  exact (Entered.ofParameters hentries).append hmore

theorem declareEnumConstant {outer : Entry} (site : Site) (houter : outer.IsType)
    (hbefore : outer.id < size) :
    Enters unit.unit size (Collector.declareEnumConstant unit outer.owner site) fun _ =>
      Entered unit (some outer)
        (Declaration.ofNamed (Entry.sitesWithin (some outer)) .enumConstant site) := by
  unfold Collector.declareEnumConstant Declaration.ofNamed
  cases site.child? .name with
  | none => exact Enters.pure (Entered.nil unit (some outer))
  | some nameSite =>
      let declaration : Declaration :=
        ⟨site, site, nameSite.text, .enumConstant, Entry.sitesWithin (some outer)⟩
      apply Enters.completeMember declaration houter hbefore rfl rfl
        (Enters.declareMember outer declaration rfl rfl)
      intro id larger _ _
      exact Enters.recordAs _ fun _ => rfl

theorem declareFields {outer : Entry} (site : Site) (houter : outer.IsType)
    (hbefore : outer.id < size) :
    Enters unit.unit size (Collector.declareFields unit outer.owner site) fun _ =>
      Entered unit (some outer) (Declaration.ofFields (Entry.sitesWithin (some outer)) site) := by
  unfold Collector.declareFields Declaration.ofFields
  apply Enters.forM
  intro declarator hdeclarator larger hlarger
  cases declarator.child? .name with
  | none => exact Enters.pure (Entered.nil unit (some outer))
  | some nameSite =>
      let declaration : Declaration :=
        ⟨declarator, site, nameSite.text, .field, Entry.sitesWithin (some outer)⟩
      have hshared : site.path ≠ declarator.path := by
        rcases Site.path_of_mem_children (Site.mem_children_of_mem_childrenIn hdeclarator) with
          ⟨i, _, hpath⟩
        rw [hpath]
        exact (List.cons_ne_self i site.path).symm
      change Enters unit.unit larger
        ((do
          let id ← Collector.declareMember unit site nameSite.text .field outer.owner
          Collector.recordSite declarator id
          return id) >>= fun id => do
            Collector.recordMember id { owner := outer.id, declaredType := declaredType? site }
            Collector.modifyOwner outer.owner (·.addField nameSite.text id)) _
      apply Enters.completeMember declaration houter (Nat.lt_of_lt_of_le hbefore hlarger) rfl rfl
        (Enters.declareField outer declaration hshared rfl)
      intro id further _ _
      exact Enters.recordAs _ fun _ => rfl

theorem declareMethod {outer : Entry} (site : Site) (houter : outer.IsType)
    (hbefore : outer.id < size) :
    Enters unit.unit size (Collector.declareMethod unit outer.owner site) fun _ =>
      Entered unit (some outer)
        (Declaration.ofNamed (Entry.sitesWithin (some outer)) .method site) := by
  unfold Collector.declareMethod Declaration.ofNamed
  cases site.child? .name with
  | none => exact Enters.pure (Entered.nil unit (some outer))
  | some nameSite =>
      let declaration : Declaration :=
        ⟨site, site, nameSite.text, .method, Entry.sitesWithin (some outer)⟩
      apply Enters.completeMember declaration houter hbefore rfl rfl
        (Enters.declareMember outer declaration rfl rfl)
      intro id larger _ hid
      apply Enters.afterParameters site hid
      intro typeParameters further _
      exact Enters.recordAs _ fun _ => rfl

theorem declareConstructor {outer : Entry} (site : Site) (houter : outer.IsType)
    (hbefore : outer.id < size) :
    Enters unit.unit size (Collector.declareConstructor unit outer.owner site) fun _ =>
      Entered unit (some outer)
        (Declaration.ofConstructor (Entry.sitesWithin (some outer)) site) := by
  unfold Collector.declareConstructor
  let declaration : Declaration :=
    ⟨site, site, constructorName, .constructor, Entry.sitesWithin (some outer)⟩
  apply Enters.completeMember declaration houter hbefore rfl rfl
    (Enters.declareMember outer declaration rfl rfl)
  intro id larger _ hid
  apply Enters.bind_get
  intro seen
  apply Enters.afterParameters site hid
  intro typeParameters further _
  exact Enters.recordAs _ fun _ => rfl

theorem entered_implied {outer : Entry} {id : SymbolId} {name : String} {kind : SymbolKind}
    (houter : outer.IsType) (hbefore : outer.id < id) (hkind : kind.isMember = true) :
    Entered unit (some outer) [] [⟨id, {
      name, qualifiedName := name, package := unit.package, kind, owner := some outer.id }, none,
      Entry.chainWithin (some outer)⟩] := by
  refine ⟨rfl, ?_⟩
  intro entry hentry
  rw [List.mem_singleton.mp hentry]
  refine .member outer name kind List.mem_cons_self houter hbefore ?_ rfl hkind rfl
  intro declaration hdeclaration
  cases hdeclaration

theorem insertMember {outer : Entry} (name : String) {kind : SymbolKind}
    {next : SymbolId → Collector Unit} (houter : outer.IsType) (hbefore : outer.id < size)
    (hkind : kind.isMember = true)
    (hnext : ∀ id larger, size ≤ larger →
      Enters number larger (next id) fun _ => Entered unit (some outer) []) :
    Enters number size (Collector.insertSymbol {
        name, qualifiedName := name, package := unit.package
        kind, owner := some outer.id } >>= next)
      fun _ => Entered unit (some outer) [] := by
  have htype := SymbolKind.isType_of_isMember hkind
  apply Enters.bind (Enters.insertSymbol (Entry.chainWithin (some outer)) htype)
  intro id entries larger hlarger hentries hbounds
  have hid := (hbounds _ (by rw [hentries]; exact List.mem_cons_self)).1
  have himplied : Entered unit (some outer) [] entries := by
    rw [hentries]
    exact entered_implied houter (Nat.lt_of_lt_of_le hbefore hid) hkind
  exact (hnext id larger hlarger).imp fun _ more hmore => himplied.append hmore

theorem declareComponent {outer : Entry} (site : Site) (houter : outer.IsType)
    (hbefore : outer.id < size) :
    Enters unit.unit size (Collector.declareComponent unit outer.owner site) fun _ =>
      Entered unit (some outer)
        (Declaration.ofNamed (Entry.sitesWithin (some outer)) .field site) := by
  unfold Collector.declareComponent Declaration.ofNamed
  cases site.child? .name with
  | none => exact Enters.pure (Entered.nil unit (some outer))
  | some nameSite =>
      let declaration : Declaration :=
        ⟨site, site, nameSite.text, .field, Entry.sitesWithin (some outer)⟩
      apply Enters.completeMember declaration houter hbefore rfl rfl
        (Enters.declareMember outer declaration rfl rfl)
      intro field larger hlarger _
      apply Enters.insertMember nameSite.text houter (Nat.lt_of_lt_of_le hbefore hlarger) rfl
      intro accessor further _
      apply Enters.afterQuiet (Enters.recordMember field _)
      intro last _
      exact Enters.recordAs _ fun _ => rfl

theorem declareComponents {outer : Entry} (site : Site) (houter : outer.IsType)
    (hbefore : outer.id < size) :
    Enters unit.unit size (Collector.declareComponents unit outer.owner site) fun _ =>
      Entered unit (some outer)
        (Declaration.ofComponents (Entry.sitesWithin (some outer)) site) := by
  apply Enters.forM
  intro component _ larger hlarger
  exact Enters.declareComponent component houter (Nat.lt_of_lt_of_le hbefore hlarger)

theorem finishType {outer : Entry} (kind : NodeKind) (houter : outer.IsType)
    (hbefore : outer.id < size) :
    Enters number size (Collector.finishType unit outer.owner kind) fun _ =>
      Entered unit (some outer) [] := by
  have hdone : Enters number size (Pure.pure ()) fun _ => Entered unit (some outer) [] :=
    Enters.pure (Entered.nil unit (some outer))
  unfold Collector.finishType
  split
  · apply Enters.bind_get
    intro seen
    split
    · apply Enters.bind_get
      intro again
      apply Enters.insertMember constructorName houter hbefore rfl
      intro id larger _
      exact Enters.recordAs _ fun _ => rfl
    · exact hdone
  · exact hdone

end Collector.Enters

/-!
# Types
-/

def Entry.ofType (unit : CollectingUnit) (outer : Option Entry) (declaration : Declaration)
    (id : SymbolId) : Entry where
  id := id
  symbol := {
    name := declaration.name
    qualifiedName := Collector.qualifiedTypeName unit (outer.map Entry.owner) declaration.name
    package := unit.package, kind := declaration.kind
    owner := outer.map (·.id) <|> unit.packageSymbol }
  declaration := some declaration
  chain := Entry.chainWithin outer

theorem Collected.Adds.ofType {unit : Nat} {type : Entry} {parameters : List Entry}
    {first named parametrized recorded : Collected} (hid : type.id = first.table.size)
    (htable : named.table = first.table.insert type.symbol)
    (hsites : named.decls.sites =
      type.records.foldl (fun sites record => sites.insert record.1 record.2) first.decls.sites)
    (hpending : named.decls.pending = first.decls.pending ++ (type.queue unit).toArray)
    (hpackages : named.decls.packages = first.decls.packages)
    (htypes : named.decls.types = first.decls.types)
    (hparameters : named.Adds unit parameters parametrized)
    (hkinds : ∀ entry, entry ∈ parameters → entry.symbol.kind.isType = false)
    (htable' : recorded.table = parametrized.table)
    (hsites' : recorded.decls.sites = parametrized.decls.sites)
    (hpending' : recorded.decls.pending = parametrized.decls.pending)
    (hpackages' : recorded.decls.packages = parametrized.decls.packages)
    (houter : ∀ id, recorded.decls.outer? id =
      if id = type.id then some type.chain.head? else parametrized.decls.outer? id) :
    first.Adds unit (type :: parameters) recorded where
  table := by
    rw [htable', hparameters.table, htable, SymbolTable.toList_insert, List.append_assoc]
    rfl
  ids := by
    rw [List.map_cons, hparameters.ids, hid, htable, SymbolTable.size_insert]
    rfl
  sites := by rw [hsites', hparameters.sites, hsites, List.flatMap_cons, List.foldl_append]
  pending := by
    rw [hpending', hparameters.pending, hpending, Array.toList_append, List.append_assoc]
    rfl
  packages := (hpackages'.trans hparameters.packages).trans hpackages
  outerOld := by
    intro id hlt
    have hother : id ≠ type.id := by rw [hid]; exact Nat.ne_of_lt hlt
    have hnamed : id < named.table.size := by
      rw [htable, SymbolTable.size_insert]
      exact Nat.lt_succ_of_lt hlt
    rw [houter, if_neg hother, hparameters.outerOld hnamed, Declarations.outer?, htypes,
      Declarations.outer?]
  outerNew := by
    intro entry hentry htype
    rcases List.mem_cons.mp hentry with heq | hparameter
    · rw [heq, houter, if_pos rfl]
    · rw [hkinds entry hparameter] at htype
      cases htype

namespace Collector

/-- The last part of the declaration of a type: its record, once its type parameters are known. -/
def recordType (unit : CollectingUnit) (outer : Option Owner) (site : Site) (name : String)
    (id : SymbolId) (typeParameters : TypeParameters) : Collector Owner := do
  match outer with
  | some owner => modifyOwner owner (·.addMemberType name id)
  | none =>
      modifyDecls fun decls =>
        let types := decls.packageTypes[unit.package]?.getD ∅
        { decls with packageTypes := decls.packageTypes.insert unit.package (types.insert name id) }
  modifyDecls fun decls =>
    { decls with
      typesByName := decls.typesByName.insert (qualifiedTypeName unit outer name) id
      types := decls.types.insert id {
        unit := unit.unit, outer := outer.map (·.id), typeParameters
        superclassName := superclassName? site, interfaceNames := interfaceNames site } }
  return { id, qualifiedName := qualifiedTypeName unit outer name }

theorem recordType_spec (unit : CollectingUnit) (outer : Option Owner) (site : Site) (name : String)
    (id : SymbolId) (typeParameters : TypeParameters) (state : Collected) :
    ∃ decls : Declarations,
      (recordType unit outer site name id typeParameters).run state =
        (⟨id, qualifiedTypeName unit outer name⟩, { state with decls }) ∧
      decls.sites = state.decls.sites ∧ decls.pending = state.decls.pending ∧
      decls.packages = state.decls.packages ∧
      ∀ other, decls.outer? other =
        if other = id then some (outer.map (·.id)) else state.decls.outer? other := by
  have hinsert : ∀ (decls : Declarations) (decl : TypeDecl) (names : Std.TreeMap String SymbolId)
      (other : SymbolId), Declarations.outer?
          { decls with typesByName := names, types := decls.types.insert id decl } other =
        if other = id then some decl.outer else decls.outer? other := by
    intro decls decl names other
    change (decls.types.insert id decl)[other]?.map (·.outer) = _
    rw [Std.TreeMap.getElem?_insert]
    by_cases heq : other = id
    · rw [if_pos heq, if_pos (Std.compare_eq_iff_eq.mpr heq.symm)]
      rfl
    · rw [if_neg heq, if_neg fun hcompare => heq (Std.compare_eq_iff_eq.mp hcompare).symm]
      rfl
  cases outer with
  | none => exact ⟨_, rfl, rfl, rfl, rfl, fun other => hinsert _ _ _ other⟩
  | some owner =>
      refine ⟨_, rfl, rfl, rfl, rfl, fun other => ?_⟩
      rw [← state.decls.outer_modifyType owner.id
        (fun decl => (rfl : (decl.addMemberType name id).outer = decl.outer)) other]
      exact hinsert (state.decls.modifyType owner.id (·.addMemberType name id)) _ _ other

end Collector

namespace Collector.Enters

variable {unit : CollectingUnit} {size : Nat}

theorem entered_type {outer : Option Entry} {declaration : Declaration} {id : SymbolId}
    (houter : ∀ around, outer = some around → around.IsType ∧ around.id < id)
    (hkind : declaration.kind.isType = true)
    (henclosing : declaration.enclosing = Entry.sitesWithin outer) :
    Entered unit outer [declaration] [Entry.ofType unit outer declaration id] := by
  refine ⟨rfl, ?_⟩
  intro entry hentry
  rw [List.mem_singleton.mp hentry]
  refine .type outer declaration ?_ rfl henclosing rfl hkind rfl
  intro around haround
  rcases houter around haround with ⟨htype, hbefore⟩
  refine ⟨?_, htype, hbefore⟩
  rw [haround]
  exact List.mem_cons_self

theorem declareType (outer : Option Entry) (site : Site) (name : String) {declaration : Declaration}
    (hdeclaration : declaration =
      ⟨site, site, name, typeKind site.kind, Entry.sitesWithin outer⟩) :
    Enters unit.unit size (Collector.declareType unit (outer.map Entry.owner) site name)
      fun owner entries => ∃ parameters,
        owner = (Entry.ofType unit outer declaration owner.id).owner ∧
        entries = Entry.ofType unit outer declaration owner.id :: parameters ∧
        ∀ entry, entry ∈ parameters → entry.declaration = none ∧ entry.Placed unit [] := by
  intro state _
  let type := Entry.ofType unit outer declaration state.table.size
  let named : Collected := {
    table := state.table.insert type.symbol
    decls := { state.decls with
      sites := state.decls.sites.insert site.path state.table.size
      pending := state.decls.pending ++ (type.queue unit.unit).toArray } }
  have hsize : state.table.size < named.table.size := by
    change _ < (state.table.insert type.symbol).size
    rw [SymbolTable.size_insert]
    exact Nat.lt_succ_self _
  have hparameters : Enters unit.unit named.table.size
      (Collector.declareTypeParameters unit site state.table.size) _ :=
    Enters.declareTypeParameters site hsize
  rcases hparameters named (Nat.le_refl _) with ⟨parameters, hadds, hplaced⟩
  have hkinds : ∀ entry, entry ∈ parameters → entry.symbol.kind.isType = false := by
    intro entry hentry
    rcases hplaced entry hentry with ⟨hnone, hplaced⟩
    cases hplaced with
    | type _ _ _ hsome => rw [hnone] at hsome; cases hsome
    | member _ _ _ hknown => cases hknown
    | typeParameter _ _ _ _ hsymbol => rw [hsymbol]; rfl
  rcases Collector.recordType_spec unit (outer.map Entry.owner) site name state.table.size
    ((Collector.declareTypeParameters unit site state.table.size).run named).1
    ((Collector.declareTypeParameters unit site state.table.size).run named).2 with
    ⟨decls, hrecord, hsites, hpending, hpackages, houter⟩
  have hcontext : (outer.map Entry.owner).map (·.id) = (Entry.chainWithin outer).head? := by
    cases outer <;> rfl
  have hrun : (Collector.declareType unit (outer.map Entry.owner) site name).run state =
      (type.owner,
        { (((Collector.declareTypeParameters unit site state.table.size).run named).2) with
          decls }) := by
    subst hdeclaration
    cases outer <;> exact hrecord
  have hrecords : named.decls.sites =
      type.records.foldl (fun sites record => sites.insert record.1 record.2)
        state.decls.sites := by
    change _ = (declaration.recorded.map _).foldl _ _
    rw [hdeclaration, Declaration.recorded_of_own rfl]
    rfl
  rw [hrun]
  refine ⟨type :: parameters, ?_, parameters, rfl, rfl, hplaced⟩
  refine Collected.Adds.ofType rfl rfl hrecords rfl rfl rfl hadds hkinds rfl hsites hpending
    hpackages ?_
  intro id
  rw [houter, hcontext]
  rfl

theorem withinType {outer : Option Entry} {site : Site} {name : String}
    {declaration : Declaration} {members : List Declaration} {next : Owner → Collector Unit}
    (hdeclaration : declaration =
      ⟨site, site, name, typeKind site.kind, Entry.sitesWithin outer⟩)
    (houter : ∀ around, outer = some around → around.IsType ∧ around.id < size)
    (hnext : ∀ (type : Entry) larger, type.IsType → type.declaration = some declaration →
      type.id < larger →
      Enters unit.unit larger (next type.owner) fun _ => Entered unit (some type) members) :
    Enters unit.unit size (Collector.declareType unit (outer.map Entry.owner) site name >>= next)
      fun _ => Entered unit outer (declaration :: members) := by
  have hkind : declaration.kind.isType = true := by
    rw [hdeclaration]
    exact Keeps.isType_typeKind site.kind
  apply Enters.bind (Enters.declareType outer site name hdeclaration)
  rintro owner entries larger _ ⟨parameters, howner, hentries, hparameters⟩ hbounds
  have hid := hbounds (Entry.ofType unit outer declaration owner.id)
    (by rw [hentries]; exact List.mem_cons_self)
  have htype : Entered unit outer [declaration] [Entry.ofType unit outer declaration owner.id] := by
    apply entered_type _ hkind
    · rw [hdeclaration]
    · intro around haround
      rcases houter around haround with ⟨hisType, hbefore⟩
      exact ⟨hisType, Nat.lt_of_lt_of_le hbefore hid.1⟩
  have hmembers := hnext (Entry.ofType unit outer declaration owner.id) larger
    ⟨hkind, declaration, rfl⟩ rfl hid.2
  rw [← howner] at hmembers
  refine hmembers.imp fun _ more hmore => ?_
  rw [hentries]
  exact htype.cons ((Entered.ofParameters hparameters).append hmore)

end Collector.Enters

namespace Collector

variable {unit : CollectingUnit}

mutual

theorem Enters.declareNode {size : Nat} (outer : Option Entry) (path : Path) (node : Node)
    (houter : ∀ around, outer = some around → around.IsType ∧ around.id < size) :
    Enters unit.unit size (Collector.declareNode unit (outer.map Entry.owner) path node) fun _ =>
      Entered unit outer (Declaration.inNode (Entry.sitesWithin outer) path node) := by
  cases node with
  | mk kind named role line column offset length text children =>
      have hdone : Enters unit.unit size (Pure.pure ()) fun _ => Entered unit outer [] :=
        Enters.pure (Entered.nil unit outer)
      rw [Collector.declareNode.eq_def, Declaration.inNode.eq_def]
      dsimp only
      by_cases hkind : kind.isTypeDeclaration = true
      · rw [if_pos hkind, if_pos hkind]
        cases hname : Site.child? _ .name with
        | none => exact hdone
        | some nameSite =>
            apply Enters.withinType rfl houter
            intro type larger htype hdeclaration hid
            have hsites : Entry.sitesWithin (some type) =
                ⟨path, ⟨kind, named, role, line, column, offset, length, text, children⟩⟩ ::
                  Entry.sitesWithin outer := by
              rw [Entry.sitesWithin, Option.bind_some, hdeclaration]
              rfl
            rw [← hsites]
            have hrest : ∀ further, larger ≤ further → Enters unit.unit further (do
                Collector.declareBody unit type.owner path 0 children
                Collector.finishType unit type.owner kind) fun _ => Entered unit (some type)
                  (Declaration.inBody (Entry.sitesWithin (some type)) path 0 children) := by
              intro further hfurther
              have hid' := Nat.lt_of_lt_of_le hid hfurther
              rw [← List.append_nil (Declaration.inBody _ _ _ _)]
              apply Enters.append (Enters.declareBody type path 0 children htype hid')
              intro last hlast
              exact Enters.finishType kind htype (Nat.lt_of_lt_of_le hid' hlast)
            by_cases hrecord : kind = .recordDeclaration
            · rw [if_pos hrecord, if_pos hrecord]
              exact Enters.append (Enters.declareComponents _ htype hid) hrest
            · rw [if_neg hrecord, if_neg hrecord]
              exact hrest larger (Nat.le_refl _)
      · rw [if_neg hkind, if_neg hkind]
        cases outer with
        | none => exact hdone
        | some around =>
            rcases houter around rfl with ⟨htype, hbefore⟩
            rcases htype.2 with ⟨declaration, hdeclaration⟩
            cases around with
            | mk id symbol declared chain =>
                cases hdeclaration
                cases kind with
                | enumBodyDeclarations => exact Enters.declareNodes _ path 0 children houter
                | enumConstant => exact Enters.declareEnumConstant _ htype hbefore
                | fieldDeclaration | constantDeclaration =>
                    exact Enters.declareFields _ htype hbefore
                | methodDeclaration | annotationElementDeclaration =>
                    exact Enters.declareMethod _ htype hbefore
                | constructorDeclaration | compactConstructorDeclaration =>
                    exact Enters.declareConstructor _ htype hbefore
                | _ => exact hdone

theorem Enters.declareBody {size : Nat} (type : Entry) (path : Path) (index : Nat)
    (nodes : List Node) (htype : type.IsType) (hbefore : type.id < size) :
    Enters unit.unit size (Collector.declareBody unit type.owner path index nodes) fun _ =>
      Entered unit (some type)
        (Declaration.inBody (Entry.sitesWithin (some type)) path index nodes) := by
  cases nodes with
  | nil =>
      rw [Collector.declareBody, Declaration.inBody]
      exact Enters.pure (Entered.nil unit (some type))
  | cons node rest =>
      cases node with
      | mk kind named role line column offset length text members =>
          rw [Collector.declareBody, Declaration.inBody]
          by_cases hrole : role = some .body
          · rw [if_pos hrole, if_pos hrole]
            apply Enters.declareNodes (some type) (index :: path) 0 members
            intro around haround
            cases haround
            exact ⟨htype, hbefore⟩
          · rw [if_neg hrole, if_neg hrole]
            exact Enters.declareBody type path (index + 1) rest htype hbefore

theorem Enters.declareNodes {size : Nat} (outer : Option Entry) (path : Path) (index : Nat)
    (nodes : List Node)
    (houter : ∀ around, outer = some around → around.IsType ∧ around.id < size) :
    Enters unit.unit size (Collector.declareNodes unit (outer.map Entry.owner) path index nodes)
      fun _ => Entered unit outer
        (Declaration.inNodes (Entry.sitesWithin outer) path index nodes) := by
  cases nodes with
  | nil =>
      rw [Collector.declareNodes, Declaration.inNodes]
      exact Enters.pure (Entered.nil unit outer)
  | cons node rest =>
      rw [Collector.declareNodes, Declaration.inNodes]
      have hrest : ∀ larger, size ≤ larger → Enters unit.unit larger
          (Collector.declareNodes unit (outer.map Entry.owner) path (index + 1) rest) fun _ =>
            Entered unit outer
              (Declaration.inNodes (Entry.sitesWithin outer) path (index + 1) rest) := by
        intro larger hlarger
        apply Enters.declareNodes outer path (index + 1) rest
        intro around haround
        rcases houter around haround with ⟨htype, hbefore⟩
        exact ⟨htype, Nat.lt_of_lt_of_le hbefore hlarger⟩
      by_cases hcounts : node.counts = true
      · simp only [if_pos hcounts]
        exact Enters.append (Enters.declareNode outer (index :: path) node houter) hrest
      · simp only [if_neg hcounts]
        exact hrest size (Nat.le_refl _)

end

end Collector

end RestrictedApi
