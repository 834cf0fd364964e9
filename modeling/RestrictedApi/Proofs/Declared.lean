import RestrictedApi.Declarations.Collection
import RestrictedApi.Declarations.Lookup
import RestrictedApi.Proofs.SimpleName

/-!
# Declarations and their symbols

What is recorded under a name agrees with the symbol table: every number that is recorded is that of
a symbol, of a kind that fits the record and of the simple name that it is recorded under.  Looking
names up therefore yields symbols of those names and of a kind that can be expected.
-/

namespace RestrictedApi

/-!
# Tables that grow
-/

namespace SymbolTable

/-- Every symbol of the first table is in the second one, up to its annotations. -/
def Extends (first second : SymbolTable) : Prop :=
  ∀ id symbol, first.get? id = some symbol →
    ∃ annotations, second.get? id = some { symbol with annotations }

/-- A number is that of a symbol of one of some kinds, with a simple name. -/
def Declares (table : SymbolTable) (id : SymbolId) (kinds : SymbolKind → Prop) (name : String) :
    Prop :=
  ∃ symbol, table.get? id = some symbol ∧ kinds symbol.kind ∧ symbol.name = name

theorem length_toList (table : SymbolTable) : table.toList.length = table.size := rfl

theorem getElem?_toList (table : SymbolTable) (id : SymbolId) :
    table.toList[id]? = table.get? id :=
  Array.getElem?_toList

theorem lt_size_iff {table : SymbolTable} {id : SymbolId} :
    id < table.size ↔ ∃ symbol, table.get? id = some symbol := by
  rw [← Option.isSome_iff_exists]
  simp [get?, size]

namespace Extends

variable {first second third : SymbolTable} {id : SymbolId}

theorem refl (table : SymbolTable) : table.Extends table :=
  fun _ symbol hsymbol => ⟨symbol.annotations, hsymbol⟩

theorem trans (h : first.Extends second) (h' : second.Extends third) : first.Extends third := by
  intro id symbol hsymbol
  rcases h id symbol hsymbol with ⟨annotations, hsecond⟩
  rcases h' id _ hsecond with ⟨further, hthird⟩
  exact ⟨further, hthird⟩

theorem lt_size (h : first.Extends second) (hid : id < first.size) : id < second.size := by
  rcases lt_size_iff.mp hid with ⟨symbol, hsymbol⟩
  rcases h id symbol hsymbol with ⟨annotations, hsecond⟩
  exact lt_size_iff.mpr ⟨_, hsecond⟩

theorem declares (h : first.Extends second) {kinds : SymbolKind → Prop} {name : String}
    (hid : first.Declares id kinds name) : second.Declares id kinds name := by
  rcases hid with ⟨symbol, hsymbol, hkind, hname⟩
  rcases h id symbol hsymbol with ⟨annotations, hsecond⟩
  exact ⟨_, hsecond, hkind, hname⟩

theorem insert (table : SymbolTable) (symbol : Symbol) : table.Extends (table.insert symbol) := by
  intro id found hfound
  refine ⟨found.annotations, ?_⟩
  have hid : id ≠ table.size := Nat.ne_of_lt (lt_size_iff.mpr ⟨found, hfound⟩)
  rw [get?_insert, if_neg hid, hfound]

theorem annotate (table : SymbolTable) (target : SymbolId) (annotations : List String) :
    table.Extends (table.modify target (·.annotate annotations)) := by
  intro id found hfound
  change ∃ annotations', (table.symbols.modify target (·.annotate annotations))[id]? = _
  rw [Array.getElem?_modify]
  change table.symbols[id]? = some found at hfound
  by_cases hid : target = id
  · rw [if_pos hid, hfound]
    exact ⟨_, rfl⟩
  · rw [if_neg hid, hfound]
    exact ⟨_, rfl⟩

end Extends

namespace Declares

variable {table : SymbolTable} {id : SymbolId} {kinds : SymbolKind → Prop} {name : String}

theorem lt_size (h : table.Declares id kinds name) : id < table.size :=
  lt_size_iff.mpr (h.imp fun _ hsymbol => hsymbol.1)

theorem imp {others : SymbolKind → Prop} (h : table.Declares id kinds name)
    (hkinds : ∀ kind, kinds kind → others kind) : table.Declares id others name := by
  rcases h with ⟨symbol, hsymbol, hkind, hname⟩
  exact ⟨symbol, hsymbol, hkinds _ hkind, hname⟩

end Declares

theorem declares_insert (table : SymbolTable) (symbol : Symbol) :
    (table.insert symbol).Declares table.size (· = symbol.kind) symbol.name := by
  refine ⟨symbol, ?_, rfl, rfl⟩
  rw [get?_insert, if_pos rfl]

end SymbolTable

/-!
# Sound records

Dotted names end in the simple name of their symbol if the names of types have no dots, which is the
assumption `simple`.  Everything else holds of any names.
-/

def SymbolKind.IsTypeName (kind : SymbolKind) : Prop :=
  kind.isType = true ∨ kind = .typeParameter

def SymbolKind.IsField (kind : SymbolKind) : Prop :=
  kind = .field ∨ kind = .enumConstant

def TypeParameters.Sound (table : SymbolTable) (parameters : TypeParameters) : Prop :=
  ∀ name id, (name, id) ∈ parameters → table.Declares id (· = .typeParameter) name

structure TypeDecl.Sound (table : SymbolTable) (decl : TypeDecl) : Prop where
  outer : ∀ {id}, decl.outer = some id → id < table.size
  supertypes : ∀ {id}, id ∈ decl.supertypes → id < table.size
  typeParameters : TypeParameters.Sound table decl.typeParameters
  memberTypes : ∀ {name id}, decl.memberTypes[name]? = some id →
    table.Declares id (·.isType = true) name
  fields : ∀ {name id}, decl.fields[name]? = some id → table.Declares id SymbolKind.IsField name
  methods : ∀ {name ids id}, decl.methods[name]? = some ids → id ∈ ids →
    table.Declares id (· = .method) name
  constructors : ∀ {id}, id ∈ decl.constructors →
    table.Declares id (· = .constructor) constructorName

structure MemberDecl.Sound (table : SymbolTable) (member : MemberDecl) : Prop where
  typeParameters : TypeParameters.Sound table member.typeParameters
  valueType : ∀ {id}, member.valueType = some id → id < table.size

structure Declarations.Sound (simple : Prop) (decls : Declarations) (table : SymbolTable) :
    Prop where
  imports : ∀ {unit : Nat} {names : UnitNames} {name : String} {imported : DottedName},
    decls.units[unit]? = some names → names.singleTypes[name]? = some imported →
      Text.simpleName imported.toText = name
  packages : ∀ {full id}, decls.packages[full]? = some id →
    table.Declares id (· = .package) (Text.simpleName full)
  typesByName : ∀ {full id}, decls.typesByName[full]? = some id →
    ∃ name, table.Declares id (·.isType = true) name ∧ (simple → name = Text.simpleName full)
  packageTypes : ∀ {package name id}, decls.packageType? package name = some id →
    table.Declares id (·.isType = true) name
  types : ∀ {id decl}, decls.types[id]? = some decl → id < table.size ∧ decl.Sound table
  members : ∀ {id member}, decls.members[id]? = some member → id < table.size ∧ member.Sound table
  sites : ∀ {path : Path} {id}, decls.sites[path]? = some id → id < table.size

section Extends

variable {first second : SymbolTable}

theorem TypeParameters.Sound.extend {parameters : TypeParameters} (h : parameters.Sound first)
    (hextends : first.Extends second) : parameters.Sound second :=
  fun name id hmem => hextends.declares (h name id hmem)

theorem TypeDecl.Sound.extend {decl : TypeDecl} (h : decl.Sound first)
    (hextends : first.Extends second) : decl.Sound second where
  outer := fun houter => hextends.lt_size (h.outer houter)
  supertypes := fun hmem => hextends.lt_size (h.supertypes hmem)
  typeParameters := h.typeParameters.extend hextends
  memberTypes := fun hname => hextends.declares (h.memberTypes hname)
  fields := fun hname => hextends.declares (h.fields hname)
  methods := fun hname hmem => hextends.declares (h.methods hname hmem)
  constructors := fun hmem => hextends.declares (h.constructors hmem)

theorem MemberDecl.Sound.extend {member : MemberDecl} (h : member.Sound first)
    (hextends : first.Extends second) : member.Sound second where
  typeParameters := h.typeParameters.extend hextends
  valueType := fun htype => hextends.lt_size (h.valueType htype)

theorem Declarations.Sound.extend {simple : Prop} {decls : Declarations}
    (h : decls.Sound simple first) (hextends : first.Extends second) :
    decls.Sound simple second where
  imports := h.imports
  packages := fun hname => hextends.declares (h.packages hname)
  typesByName := by
    intro full id hname
    rcases h.typesByName hname with ⟨name, hdeclares, hsimple⟩
    exact ⟨name, hextends.declares hdeclares, hsimple⟩
  packageTypes := fun hname => hextends.declares (h.packageTypes hname)
  types := fun hid => ⟨hextends.lt_size (h.types hid).1, (h.types hid).2.extend hextends⟩
  members := fun hid => ⟨hextends.lt_size (h.members hid).1, (h.members hid).2.extend hextends⟩
  sites := fun hpath => hextends.lt_size (h.sites hpath)

end Extends

/-!
# Looking up
-/

theorem Declarations.mem_of_selectOverload {decls : Declarations} {candidates : List SymbolId}
    {count : Option Nat} {id : SymbolId} (hid : decls.selectOverload candidates count = some id) :
    id ∈ candidates := by
  cases count with
  | none => exact List.mem_of_head? hid
  | some count =>
      rw [selectOverload] at hid
      cases hexact : candidates.find? (decls.takesExactly count) with
      | some found =>
          rw [hexact] at hid
          cases hid
          exact List.mem_of_find?_eq_some hexact
      | none =>
          rw [hexact] at hid
          exact List.mem_of_find?_eq_some hid

namespace Declarations.Sound

variable {simple : Prop} {decls : Declarations} {table : SymbolTable}

theorem memberType {type id : SymbolId} {name : String} (h : decls.Sound simple table)
    (hid : decls.memberType? type name = some id) : table.Declares id (·.isType = true) name := by
  rcases List.exists_of_findSome?_eq_some hid with ⟨holder, _, hholder⟩
  rcases Option.bind_eq_some_iff.mp hholder with ⟨decl, hdecl, hmember⟩
  exact (h.types hdecl).2.memberTypes hmember

theorem field {type id : SymbolId} {name : String} (h : decls.Sound simple table)
    (hid : decls.field? type name = some id) : table.Declares id SymbolKind.IsField name := by
  rcases List.exists_of_findSome?_eq_some hid with ⟨holder, _, hholder⟩
  rcases Option.bind_eq_some_iff.mp hholder with ⟨decl, hdecl, hfield⟩
  exact (h.types hdecl).2.fields hfield

theorem method {type id : SymbolId} {name : String} (h : decls.Sound simple table)
    (hid : id ∈ decls.methods type name) : table.Declares id (· = .method) name := by
  rcases List.mem_flatMap.mp hid with ⟨holder, _, hholder⟩
  cases hmethods : decls.types[holder]?.bind fun decl => decl.methods[name]? with
  | none =>
      rw [hmethods] at hholder
      cases hholder
  | some ids =>
      rw [hmethods] at hholder
      rcases Option.bind_eq_some_iff.mp hmethods with ⟨decl, hdecl, hids⟩
      exact (h.types hdecl).2.methods hids hholder

theorem constructor {type id : SymbolId} (h : decls.Sound simple table)
    (hid : id ∈ decls.constructors type) :
    table.Declares id (· = .constructor) constructorName := by
  rw [constructors] at hid
  cases hdecl : decls.types[type]? with
  | none =>
      rw [hdecl] at hid
      cases hid
  | some decl =>
      rw [hdecl] at hid
      exact (h.types hdecl).2.constructors hid

theorem typeNamed {name : DottedName} {id : SymbolId} (h : decls.Sound simple table)
    (hid : decls.typeNamed? name = some id) :
    ∃ last, table.Declares id (·.isType = true) last ∧
      (simple → last = Text.simpleName name.toText) :=
  h.typesByName hid

end Declarations.Sound

theorem TypeParameters.Sound.find {table : SymbolTable} {parameters : TypeParameters}
    {name : String} {id : SymbolId} (h : parameters.Sound table)
    (hid : parameters.find? name = some id) : table.Declares id (· = .typeParameter) name := by
  rcases Option.map_eq_some_iff.mp hid with ⟨⟨key, value⟩, hentry, hvalue⟩
  have hkey : key = name := by simpa using List.find?_some hentry
  rw [← hkey, ← hvalue]
  exact h key value (List.mem_of_find?_eq_some hentry)

namespace Declarations.Sound

variable {simple : Prop} {decls : Declarations} {table : SymbolTable}

theorem simpleType {view : Viewpoint} {name : String} {id : SymbolId}
    (h : decls.Sound simple table) (hview : view.parameters.Sound table)
    (hid : decls.simpleType? view name = some id) :
    ∃ found, table.Declares id SymbolKind.IsTypeName found ∧ (simple → found = name) := by
  have hofType : table.Declares id (·.isType = true) name →
      ∃ found, table.Declares id SymbolKind.IsTypeName found ∧ (simple → found = name) :=
    fun hdeclares => ⟨name, hdeclares.imp fun _ => Or.inl, fun _ => rfl⟩
  have hofParameter : table.Declares id (· = .typeParameter) name →
      ∃ found, table.Declares id SymbolKind.IsTypeName found ∧ (simple → found = name) :=
    fun hdeclares => ⟨name, hdeclares.imp fun _ => Or.inr, fun _ => rfl⟩
  rcases Option.bind_eq_some_iff.mp hid with ⟨names, hnames, hfound⟩
  simp only [Option.orElse_eq_orElse, Option.orElse_eq_or, Option.or_eq_some_iff] at hfound
  rcases hfound with
    hparameter | ⟨_, henclosing | ⟨_, hmember | ⟨_, himport | ⟨_, hpackage | ⟨_, hdemand⟩⟩⟩⟩⟩
  · exact hofParameter (hview.find hparameter)
  · rcases List.exists_of_findSome?_eq_some henclosing with ⟨type, _, htype⟩
    rcases Option.bind_eq_some_iff.mp htype with ⟨decl, hdecl, hparameter⟩
    exact hofParameter ((h.types hdecl).2.typeParameters.find hparameter)
  · rcases List.exists_of_findSome?_eq_some hmember with ⟨type, _, htype⟩
    exact hofType (h.memberType htype)
  · rcases Option.bind_eq_some_iff.mp himport with ⟨imported, himported, hnamed⟩
    rcases h.typeNamed hnamed with ⟨last, hdeclares, hlast⟩
    refine ⟨last, hdeclares.imp fun _ => Or.inl, fun hsimple => ?_⟩
    rw [hlast hsimple, h.imports hnames himported]
  · exact hofType (h.packageTypes hpackage)
  · rcases List.exists_of_findSome?_eq_some hdemand with ⟨imported, _, himported⟩
    simp only [Option.orElse_eq_orElse, Option.orElse_eq_or, Option.or_eq_some_iff] at himported
    rcases himported with hpackage | ⟨_, hmember⟩
    · exact hofType (h.packageTypes hpackage)
    · rcases Option.bind_eq_some_iff.mp hmember with ⟨type, _, htype⟩
      exact hofType (h.memberType htype)

theorem memberTypes_lt {start id : SymbolId} {name : DottedName} (h : decls.Sound simple table)
    (hstart : start < table.size) (hid : decls.memberTypes? start name = some id) :
    id < table.size := by
  induction name generalizing start with
  | nil =>
      cases hid
      exact hstart
  | cons segment rest ih =>
      rcases Option.bind_eq_some_iff.mp hid with ⟨next, hnext, hrest⟩
      exact ih (h.memberType hnext).lt_size hrest

theorem typeOf_lt {view : Viewpoint} {name : DottedName} {id : SymbolId}
    (h : decls.Sound simple table) (hview : view.parameters.Sound table)
    (hid : decls.typeOf? view name = some id) : id < table.size := by
  cases name with
  | nil => cases hid
  | cons first rest =>
      rw [typeOf?] at hid
      cases hfirst : decls.simpleType? view first with
      | none =>
          rw [hfirst] at hid
          by_cases hrest : rest = []
          · simp [hrest] at hid
          · simp only [if_neg hrest] at hid
            rcases h.typeNamed hid with ⟨last, hdeclares, _⟩
            exact hdeclares.lt_size
      | some start =>
          rw [hfirst] at hid
          rcases h.simpleType hview hfirst with ⟨found, hdeclares, _⟩
          exact h.memberTypes_lt hdeclares.lt_size hid

end Declarations.Sound

end RestrictedApi
