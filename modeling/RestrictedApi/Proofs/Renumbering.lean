import RestrictedApi.Extraction
import RestrictedApi.Proofs.Linked

/-!
# Renumbering symbols

A walk numbers the symbols that it appends from the size of the table on.  If others have been
appended before it, those numbers move up.  This module says how all the data of a walk are
renumbered, and that looking things up agrees with it: the records of a program know no number that
moves.
-/

namespace RestrictedApi

/-- Symbols that are inserted right after those of a table. -/
structure Renumbering where
  base : SymbolTable
  inserted : List Symbol

namespace Renumbering

variable (r : Renumbering)

/-!
# Renumbered data
-/

/-- The numbers of the table stay, those after it move up. -/
def number (id : SymbolId) : SymbolId :=
  if id < r.base.size then id else id + r.inserted.length

def meaning : Meaning → Meaning
  | .package name => .package name
  | .type id => .type (r.number id)
  | .value type => .value (r.number type)
  | .unknown => .unknown

def enclosing : Enclosing → Enclosing
  | .declared id => .declared (r.number id)
  | .anonymous supertype => .anonymous (supertype.map r.number)

def parameters (parameters : TypeParameters) : TypeParameters :=
  parameters.map fun entry => (entry.1, r.number entry.2)

def localVariable (found : Local) : Local where
  symbol := r.number found.symbol
  type := found.type.map r.number

def block (block : Block) : Block where
  locals := block.locals.map fun entry => (entry.1, r.localVariable entry.2)
  typeParameters := r.parameters block.typeParameters

def symbol (symbol : Symbol) : Symbol :=
  { symbol with owner := symbol.owner.map r.number }

def table (table : SymbolTable) : SymbolTable where
  symbols := (table.toList.take r.base.size ++ r.inserted ++
    (table.toList.drop r.base.size).map r.symbol).toArray

def usage (usage : Usage) : Usage :=
  { usage with target := usage.target.map r.number }

def reference (reference : Reference) : Reference :=
  { reference with usage := r.usage reference.usage }

def binding (binding : Binding) : Binding :=
  { binding with symbol := r.number binding.symbol }

def view (view : Viewpoint) : Viewpoint where
  unit := view.unit
  enclosing := view.enclosing.map r.number
  parameters := r.parameters view.parameters

def walk (walk : Walk) : Walk :=
  { walk with
    table := r.table walk.table
    references := walk.references.map r.reference
    bindings := walk.bindings.map r.binding
    enclosing := walk.enclosing.map r.enclosing
    blocks := walk.blocks.map r.block
    switches := walk.switches.map (Option.map r.number) }

/-!
# Numbers that stay
-/

variable {r}

theorem number_of_lt {id : SymbolId} (hid : id < r.base.size) : r.number id = id :=
  if_pos hid

theorem map_number_of_lt {found : Option SymbolId}
    (hfound : ∀ {id}, found = some id → id < r.base.size) : found.map r.number = found := by
  cases found with
  | none => rfl
  | some id => rw [Option.map_some, number_of_lt (hfound rfl)]

theorem map_numbers_of_lt {ids : List SymbolId} (hids : ∀ {id}, id ∈ ids → id < r.base.size) :
    ids.map r.number = ids := by
  rw [List.map_congr_left fun id hid => number_of_lt (hids hid), List.map_id']

/-- A lookup that knows nothing of numbers after the table does not see the renumbering. -/
theorem apply_number {β : Type} (lookup : SymbolId → β) {nothing : β}
    (hlookup : ∀ id, ¬ id < r.base.size → lookup id = nothing) (id : SymbolId) :
    lookup (r.number id) = lookup id := by
  by_cases hid : id < r.base.size
  · rw [number_of_lt hid]
  · have hmoved : ¬ r.number id < r.base.size := by
      rw [number, if_neg hid]
      exact fun hlt => hid (Nat.lt_of_le_of_lt (Nat.le_add_right _ _) hlt)
    rw [hlookup id hid, hlookup _ hmoved]

end Renumbering

/-!
# Looking up in the records
-/

namespace Declarations.Sound

variable {simple : Prop} {decls : Declarations} {table : SymbolTable} {id : SymbolId}

theorem types_of_not_lt (h : decls.Sound simple table) (hid : ¬ id < table.size) :
    decls.types[id]? = none := by
  cases hdecl : decls.types[id]? with
  | none => rfl
  | some decl => exact absurd (h.types hdecl).1 hid

theorem members_of_not_lt (h : decls.Sound simple table) (hid : ¬ id < table.size) :
    decls.members[id]? = none := by
  cases hmember : decls.members[id]? with
  | none => rfl
  | some member => exact absurd (h.members hmember).1 hid

theorem hierarchy_of_not_lt (h : decls.Sound simple table) (hid : ¬ id < table.size) :
    decls.hierarchy id = [id] := by
  have hsupertypes : decls.supertypes id = [] := by
    rw [supertypes, h.types_of_not_lt hid]
    rfl
  have hfirst : freshIn [] [id] = [id] := rfl
  have hsecond : freshIn [id] ([id].flatMap decls.supertypes) = [] := by
    rw [List.flatMap_singleton, hsupertypes]
    rfl
  rw [hierarchy, addLevels, hfirst]
  change decls.addLevels (decls.types.size + 1) [id] _ = [id]
  rw [addLevels, hsecond]

theorem field_of_not_lt (h : decls.Sound simple table) (name : String) (hid : ¬ id < table.size) :
    decls.field? id name = none := by
  simp [field?, h.hierarchy_of_not_lt hid, h.types_of_not_lt hid]

theorem memberType_of_not_lt (h : decls.Sound simple table) (name : String)
    (hid : ¬ id < table.size) : decls.memberType? id name = none := by
  simp [memberType?, h.hierarchy_of_not_lt hid, h.types_of_not_lt hid]

theorem methods_of_not_lt (h : decls.Sound simple table) (name : String)
    (hid : ¬ id < table.size) : decls.methods id name = [] := by
  simp [methods, h.hierarchy_of_not_lt hid, h.types_of_not_lt hid]

theorem constructors_of_not_lt (h : decls.Sound simple table) (hid : ¬ id < table.size) :
    decls.constructors id = [] := by
  simp [constructors, h.types_of_not_lt hid]

theorem superclass_lt (h : decls.Sound simple table) {type : SymbolId}
    (hid : decls.superclass? type = some id) : id < table.size := by
  rcases Option.bind_eq_some_iff.mp hid with ⟨decl, hdecl, hsuperclass⟩
  apply (h.types hdecl).2.supertypes
  rw [TypeDecl.supertypes, hsuperclass]
  exact List.mem_append_left _ (List.mem_singleton.mpr rfl)

theorem valueType_lt (h : decls.Sound simple table) {member : SymbolId}
    (hid : decls.valueType? member = some id) : id < table.size := by
  rcases Option.bind_eq_some_iff.mp hid with ⟨decl, hdecl, htype⟩
  exact (h.members hdecl).2.valueType htype

end Declarations.Sound

namespace Renumbering

variable {r : Renumbering} {simple : Prop} {decls : Declarations}

theorem types_number (h : decls.Sound simple r.base) (id : SymbolId) :
    decls.types[r.number id]? = decls.types[id]? :=
  apply_number (fun id => decls.types[id]?) (fun _ => h.types_of_not_lt) id

theorem field_number (h : decls.Sound simple r.base) (id : SymbolId) (name : String) :
    decls.field? (r.number id) name = decls.field? id name :=
  apply_number (fun id => decls.field? id name) (fun _ => h.field_of_not_lt name) id

theorem memberType_number (h : decls.Sound simple r.base) (id : SymbolId) (name : String) :
    decls.memberType? (r.number id) name = decls.memberType? id name :=
  apply_number (fun id => decls.memberType? id name) (fun _ => h.memberType_of_not_lt name) id

theorem methods_number (h : decls.Sound simple r.base) (id : SymbolId) (name : String) :
    decls.methods (r.number id) name = decls.methods id name :=
  apply_number (fun id => decls.methods id name) (fun _ => h.methods_of_not_lt name) id

theorem constructors_number (h : decls.Sound simple r.base) (id : SymbolId) :
    decls.constructors (r.number id) = decls.constructors id :=
  apply_number decls.constructors (fun _ => h.constructors_of_not_lt) id

theorem superclass_number (h : decls.Sound simple r.base) (id : SymbolId) :
    decls.superclass? (r.number id) = decls.superclass? id := by
  rw [Declarations.superclass?, types_number h, Declarations.superclass?]

theorem valueType_number (h : decls.Sound simple r.base) (id : SymbolId) :
    decls.valueType? (r.number id) = decls.valueType? id := by
  apply apply_number decls.valueType?
  intro other hother
  rw [Declarations.valueType?, h.members_of_not_lt hother]

/-!
# What is found stays
-/

theorem map_field (h : decls.Sound simple r.base) (id : SymbolId) (name : String) :
    (decls.field? id name).map r.number = decls.field? id name :=
  map_number_of_lt fun hid => (h.field hid).lt_size

theorem map_memberType (h : decls.Sound simple r.base) (id : SymbolId) (name : String) :
    (decls.memberType? id name).map r.number = decls.memberType? id name :=
  map_number_of_lt fun hid => (h.memberType hid).lt_size

theorem map_methods (h : decls.Sound simple r.base) (id : SymbolId) (name : String) :
    (decls.methods id name).map r.number = decls.methods id name :=
  map_numbers_of_lt fun hid => (h.method hid).lt_size

theorem map_constructors (h : decls.Sound simple r.base) (id : SymbolId) :
    (decls.constructors id).map r.number = decls.constructors id :=
  map_numbers_of_lt fun hid => (h.constructor hid).lt_size

theorem map_superclass (h : decls.Sound simple r.base) (id : SymbolId) :
    (decls.superclass? id).map r.number = decls.superclass? id :=
  map_number_of_lt h.superclass_lt

theorem map_valueType (h : decls.Sound simple r.base) (id : SymbolId) :
    (decls.valueType? id).map r.number = decls.valueType? id :=
  map_number_of_lt h.valueType_lt

theorem map_package (h : decls.Sound simple r.base) (name : String) :
    (decls.package? name).map r.number = decls.package? name :=
  map_number_of_lt fun hid => (h.packages hid).lt_size

theorem map_packageType (h : decls.Sound simple r.base) (package name : String) :
    (decls.packageType? package name).map r.number = decls.packageType? package name :=
  map_number_of_lt fun hid => (h.packageTypes hid).lt_size

theorem map_typeNamed (h : decls.Sound simple r.base) (name : DottedName) :
    (decls.typeNamed? name).map r.number = decls.typeNamed? name := by
  apply map_number_of_lt
  intro id hid
  rcases h.typeNamed hid with ⟨last, hdeclares, _⟩
  exact hdeclares.lt_size

/-!
# Names of types
-/

theorem find_parameters (parameters : TypeParameters) (name : String) :
    TypeParameters.find? (r.parameters parameters) name =
      (TypeParameters.find? parameters name).map r.number := by
  induction parameters with
  | nil => rfl
  | cons entry rest ih =>
      unfold TypeParameters.find? Renumbering.parameters at ih ⊢
      rw [List.map_cons, List.find?_cons, List.find?_cons]
      cases entry.1 == name with
      | true => rfl
      | false => exact ih

theorem findSome_map {lookup : SymbolId → Option SymbolId}
    (hlookup : ∀ id, lookup (r.number id) = lookup id)
    (hfound : ∀ id, (lookup id).map r.number = lookup id) (ids : List SymbolId) :
    (ids.map r.number).findSome? lookup = (ids.findSome? lookup).map r.number := by
  rw [List.findSome?_map, List.map_findSome?]
  congr 1
  funext id
  exact (hlookup id).trans (hfound id).symm

theorem bind_map {lookup : SymbolId → Option SymbolId}
    (hlookup : ∀ id, lookup (r.number id) = lookup id)
    (hfound : ∀ id, (lookup id).map r.number = lookup id) (found : Option SymbolId) :
    (found.map r.number).bind lookup = (found.bind lookup).map r.number := by
  cases found with
  | none => rfl
  | some id => exact (hlookup id).trans (hfound id).symm

theorem enclosingParameter_map (h : decls.Sound simple r.base) (ids : List SymbolId)
    (name : String) :
    decls.enclosingParameter? (ids.map r.number) name =
      (decls.enclosingParameter? ids name).map r.number := by
  refine findSome_map (fun id => ?_) (fun id => ?_) ids
  · rw [types_number h]
  · apply map_number_of_lt
    intro parameter hparameter
    rcases Option.bind_eq_some_iff.mp hparameter with ⟨decl, hdecl, hfind⟩
    exact ((h.types hdecl).2.typeParameters.find hfind).lt_size

theorem enclosingMember_map (h : decls.Sound simple r.base) (ids : List SymbolId)
    (name : String) :
    decls.enclosingMember? (ids.map r.number) name =
      (decls.enclosingMember? ids name).map r.number :=
  findSome_map (fun id => memberType_number h id name) (fun id => map_memberType h id name) ids

theorem map_singleImport (h : decls.Sound simple r.base) (names : UnitNames) (name : String) :
    (decls.singleImport? names name).map r.number = decls.singleImport? names name := by
  rw [Declarations.singleImport?, Option.map_bind]
  simp only [Function.comp_def, map_typeNamed h]

theorem map_onDemandImport (h : decls.Sound simple r.base) (names : UnitNames) (name : String) :
    (decls.onDemandImport? names name).map r.number = decls.onDemandImport? names name := by
  apply map_number_of_lt
  intro id hid
  rcases List.exists_of_findSome?_eq_some hid with ⟨imported, _, himported⟩
  simp only [Option.orElse_eq_orElse, Option.orElse_eq_or, Option.or_eq_some_iff] at himported
  rcases himported with hpackage | ⟨_, hmember⟩
  · exact (h.packageTypes hpackage).lt_size
  · rcases Option.bind_eq_some_iff.mp hmember with ⟨type, _, htype⟩
    exact (h.memberType htype).lt_size

theorem simpleType_view (h : decls.Sound simple r.base) (view : Viewpoint) (name : String) :
    decls.simpleType? (r.view view) name = (decls.simpleType? view name).map r.number := by
  unfold Declarations.simpleType? Renumbering.view
  cases decls.units[view.unit]? with
  | none => rfl
  | some names =>
      simp only [Option.bind_some, Option.orElse_eq_orElse, Option.orElse_eq_or, Option.map_or,
        find_parameters, enclosingParameter_map h, enclosingMember_map h, map_singleImport h,
        map_packageType h, map_onDemandImport h]

theorem memberTypes_number (h : decls.Sound simple r.base) (id : SymbolId) (name : DottedName) :
    decls.memberTypes? (r.number id) name = (decls.memberTypes? id name).map r.number := by
  induction name generalizing id with
  | nil => rfl
  | cons segment rest ih =>
      rw [Declarations.memberTypes?, Declarations.memberTypes?, memberType_number h]
      cases hnext : decls.memberType? id segment with
      | none => rfl
      | some next =>
          have hrest := ih next
          rw [number_of_lt (h.memberType hnext).lt_size] at hrest
          exact hrest

theorem typeOf_view (h : decls.Sound simple r.base) (view : Viewpoint) (name : DottedName) :
    decls.typeOf? (r.view view) name = (decls.typeOf? view name).map r.number := by
  cases name with
  | nil => rfl
  | cons first rest =>
      rw [Declarations.typeOf?, Declarations.typeOf?, simpleType_view h]
      cases decls.simpleType? view first with
      | some id => exact memberTypes_number h id rest
      | none =>
          by_cases hrest : rest = []
          · simp [hrest]
          · simp only [Option.map_none, if_neg hrest]
            exact (map_typeNamed h _).symm

/-!
# Selections and overloads
-/

theorem selectOverload_of_lt {candidates : List SymbolId}
    (hcandidates : ∀ {id}, id ∈ candidates → id < r.base.size) (count : Option Nat) :
    (decls.selectOverload candidates count).map r.number =
      decls.selectOverload candidates count :=
  map_number_of_lt fun hid => hcandidates (Declarations.mem_of_selectOverload hid)

theorem method_number (h : decls.Sound simple r.base) (id : SymbolId) (name : String)
    (count : Option Nat) :
    decls.method? (r.number id) name count = decls.method? id name count := by
  rw [Declarations.method?, methods_number h, Declarations.method?]

theorem map_method (h : decls.Sound simple r.base) (id : SymbolId) (name : String)
    (count : Option Nat) :
    (decls.method? id name count).map r.number = decls.method? id name count :=
  selectOverload_of_lt (fun hid => (h.method hid).lt_size) count

theorem constructor_number (h : decls.Sound simple r.base) (id : SymbolId) (count : Option Nat) :
    decls.constructor? (r.number id) count = decls.constructor? id count := by
  rw [Declarations.constructor?, constructors_number h, Declarations.constructor?]

theorem map_constructor (h : decls.Sound simple r.base) (id : SymbolId) (count : Option Nat) :
    (decls.constructor? id count).map r.number = decls.constructor? id count :=
  selectOverload_of_lt (fun hid => (h.constructor hid).lt_size) count

theorem map_staticField (h : decls.Sound simple r.base) (unit : Nat) (name : String) :
    (decls.staticField? unit name).map r.number = decls.staticField? unit name := by
  apply map_number_of_lt
  intro id hid
  rcases List.exists_of_findSome?_eq_some hid with ⟨owner, _, howner⟩
  exact (h.field howner).lt_size

theorem map_staticMethod (h : decls.Sound simple r.base) (unit : Nat) (name : String)
    (count : Option Nat) :
    (decls.selectOverload (decls.staticMethods unit name) count).map r.number =
      decls.selectOverload (decls.staticMethods unit name) count := by
  refine selectOverload_of_lt ?_ count
  intro id hid
  rcases List.mem_flatMap.mp hid with ⟨owner, _, howner⟩
  exact (h.method howner).lt_size

theorem selectFrom_number (h : decls.Sound simple r.base) (name : String) (position : Position)
    (id : SymbolId) (fromType : Bool) :
    Declarations.select.selectFrom decls name position (r.number id) fromType =
      Declarations.select.selectFrom decls name position id fromType := by
  unfold Declarations.select.selectFrom
  rw [field_number h, memberType_number h, methods_number h]

theorem select_meaning (h : decls.Sound simple r.base) (qualifier : Meaning) (name : String)
    (position : Position) :
    decls.select (r.meaning qualifier) name position = decls.select qualifier name position := by
  cases qualifier with
  | package package => rfl
  | type id => exact selectFrom_number h name position id true
  | value id => exact selectFrom_number h name position id false
  | unknown => rfl

theorem meaning_ofType (type : Option SymbolId) :
    r.meaning (.ofType? type) = .ofType? (type.map r.number) := by
  cases type with
  | none => rfl
  | some id => rfl

theorem type_meaning (meaning : Meaning) :
    (r.meaning meaning).type? = meaning.type?.map r.number := by
  cases meaning <;> rfl

theorem receiver_meaning (meaning : Meaning) :
    (r.meaning meaning).receiver? = meaning.receiver?.map r.number := by
  cases meaning <;> rfl

def Fixes (r : Renumbering) (found : Option SymbolId × Meaning) : Prop :=
  found.1.map r.number = found.1 ∧ r.meaning found.2 = found.2

theorem fixes_type {id : SymbolId} (hid : id < r.base.size) : r.Fixes (some id, .type id) := by
  have hfixed := number_of_lt hid
  exact ⟨congrArg some hfixed, congrArg Meaning.type hfixed⟩

theorem fixes_selectFrom (h : decls.Sound simple r.base) (name : String) (position : Position)
    (id : SymbolId) (fromType : Bool) :
    r.Fixes (Declarations.select.selectFrom decls name position id fromType) := by
  unfold Declarations.select.selectFrom
  dsimp only
  split
  · rename_i field _ _ hfield
    have hid := (h.field (Option.ite_none_left_eq_some.mp hfield).2).lt_size
    refine ⟨congrArg some (number_of_lt hid), ?_⟩
    rw [meaning_ofType, map_valueType h]
  · rename_i _ hmember
    exact fixes_type (h.memberType (Option.ite_none_right_eq_some.mp hmember).2).lt_size
  · rename_i hmethod
    have hhead := (Option.ite_none_right_eq_some.mp hmethod).2
    have hid := (h.method (List.mem_of_mem_head? hhead)).lt_size
    exact ⟨congrArg some (number_of_lt hid), rfl⟩
  · exact ⟨rfl, rfl⟩

theorem fixes_select (h : decls.Sound simple r.base) (qualifier : Meaning) (name : String)
    (position : Position) : r.Fixes (decls.select qualifier name position) := by
  cases qualifier with
  | package package =>
      rw [Declarations.select]
      cases htype : decls.packageType? package name with
      | some type => exact fixes_type (h.packageTypes htype).lt_size
      | none =>
          cases hpackage : decls.package? (package ++ "." ++ name) with
          | some id =>
              simp only [hpackage]
              exact ⟨congrArg some (number_of_lt (h.packages hpackage).lt_size), rfl⟩
          | none =>
              simp only [hpackage]
              exact ⟨rfl, rfl⟩
  | type id => exact fixes_selectFrom h name position id true
  | value id => exact fixes_selectFrom h name position id false
  | unknown => exact ⟨rfl, rfl⟩

/-!
# States
-/

theorem enclosingTypes_walk (walk : Walk) :
    (r.walk walk).enclosingTypes = walk.enclosingTypes.map r.number := by
  have htype : ∀ enclosing : Enclosing,
      (r.enclosing enclosing).type? = enclosing.type?.map r.number := by
    intro enclosing
    cases enclosing <;> rfl
  unfold Walk.enclosingTypes Renumbering.walk
  rw [List.filterMap_map, List.map_filterMap]
  simp only [Function.comp_def, htype]

theorem thisType_walk (walk : Walk) : (r.walk walk).thisType? = walk.thisType?.map r.number := by
  unfold Walk.thisType? Renumbering.walk
  cases walk.enclosing with
  | nil => rfl
  | cons enclosing rest => cases enclosing <;> rfl

theorem superType_walk {simple : Prop} {decls : Declarations} (h : decls.Sound simple r.base)
    (walk : Walk) :
    (r.walk walk).superType? decls = (walk.superType? decls).map r.number := by
  unfold Walk.superType? Renumbering.walk
  cases walk.enclosing with
  | nil => rfl
  | cons enclosing rest =>
      cases enclosing with
      | declared id =>
          change decls.superclass? (r.number id) = (decls.superclass? id).map r.number
          rw [superclass_number h, map_superclass h]
      | anonymous supertype => rfl

theorem local_walk (walk : Walk) (name : String) :
    (r.walk walk).local? name = (walk.local? name).map r.localVariable := by
  have hlookup : ∀ locals : List (String × Local),
      (locals.map fun entry => (entry.1, r.localVariable entry.2)).lookup name =
        (locals.lookup name).map r.localVariable := by
    intro locals
    induction locals with
    | nil => rfl
    | cons entry rest ih =>
        rw [List.map_cons, List.lookup_cons, List.lookup_cons]
        cases name == entry.1 with
        | true => rfl
        | false => exact ih
  unfold Walk.local? Renumbering.walk
  rw [List.findSome?_map, List.map_findSome?]
  congr 1
  funext block
  exact hlookup block.locals

theorem view_walk (walk : Walk) (unit : Nat) :
    (r.walk walk).view unit = r.view (walk.view unit) := by
  have hparameters : (r.walk walk).typeParameters = r.parameters walk.typeParameters := by
    unfold Walk.typeParameters Renumbering.walk Renumbering.parameters
    rw [List.flatMap_map, List.map_flatMap]
    rfl
  unfold Walk.view Renumbering.view
  rw [enclosingTypes_walk, hparameters]

theorem size_table {table : SymbolTable} (htable : r.base.size ≤ table.size) :
    (r.table table).size = table.size + r.inserted.length := by
  change ((_ ++ _ ++ _ : List Symbol).toArray).size = _
  simp only [List.size_toArray, List.length_append, List.length_take, List.length_map,
    List.length_drop, SymbolTable.length_toList]
  omega

theorem table_insert {table : SymbolTable} (htable : r.base.size ≤ table.size) (symbol : Symbol) :
    r.table (table.insert symbol) = (r.table table).insert (r.symbol symbol) := by
  have hlength : r.base.size ≤ table.toList.length := htable
  unfold Renumbering.table
  rw [SymbolTable.toList_insert, List.take_append_of_le_length hlength,
    List.drop_append_of_le_length hlength, List.map_append]
  simp [SymbolTable.insert, List.append_assoc]

theorem get_table {table : SymbolTable} (htable : r.base.size ≤ table.size) {id : SymbolId}
    (hid : id < r.base.size) : (r.table table).get? id = table.get? id := by
  have hlength : r.base.size ≤ table.toList.length := htable
  have htake : id < (table.toList.take r.base.size).length := by
    rw [List.length_take]
    exact Nat.lt_min.mpr ⟨hid, Nat.lt_of_lt_of_le hid hlength⟩
  rw [← SymbolTable.getElem?_toList, ← SymbolTable.getElem?_toList]
  change (_ ++ _ ++ _ : List Symbol)[id]? = _
  rw [List.append_assoc, List.getElem?_append_left htake, List.getElem?_take_of_lt hid]

end Renumbering
end RestrictedApi
