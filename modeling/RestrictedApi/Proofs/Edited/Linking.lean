import RestrictedApi.Declarations.Linking
import RestrictedApi.Extraction.Walk

/-!
# Declarations at other sites

The records of a program know their nodes only through the table of declaring sites.  No lookup by
name reads it, and linking neither reads nor changes it.
-/

namespace RestrictedApi

namespace Declarations

def withSites (decls : Declarations) (sites : Std.TreeMap Path SymbolId) : Declarations :=
  { decls with sites }

variable (decls : Declarations) (sites : Std.TreeMap Path SymbolId)

@[simp] theorem withSites_sites : (decls.withSites sites).sites = sites := rfl

@[simp] theorem withSites_self : decls.withSites decls.sites = decls := rfl

@[simp] theorem withSites_units : (decls.withSites sites).units = decls.units := rfl

@[simp] theorem withSites_types : (decls.withSites sites).types = decls.types := rfl

@[simp] theorem withSites_members : (decls.withSites sites).members = decls.members := rfl

/-!
# Looking up
-/

@[simp] theorem withSites_packageType? :
    (decls.withSites sites).packageType? = decls.packageType? := rfl

@[simp] theorem withSites_typeNamed? : (decls.withSites sites).typeNamed? = decls.typeNamed? := rfl

@[simp] theorem withSites_constructors :
    (decls.withSites sites).constructors = decls.constructors := rfl

@[simp] theorem withSites_valueType? : (decls.withSites sites).valueType? = decls.valueType? := rfl

theorem withSites_addLevels (rounds : Nat) (found frontier : List SymbolId) :
    (decls.withSites sites).addLevels rounds found frontier =
      decls.addLevels rounds found frontier := by
  induction rounds generalizing found frontier with
  | zero => rfl
  | succ rounds ih =>
      rw [addLevels, addLevels]
      cases freshIn found frontier with
      | nil => rfl
      | cons id rest => exact ih _ _

@[simp] theorem withSites_hierarchy : (decls.withSites sites).hierarchy = decls.hierarchy :=
  funext fun id => withSites_addLevels decls sites _ [] [id]

@[simp] theorem withSites_memberType? :
    (decls.withSites sites).memberType? = decls.memberType? := by
  funext id name
  rw [memberType?, withSites_hierarchy]
  rfl

@[simp] theorem withSites_field? : (decls.withSites sites).field? = decls.field? := by
  funext id name
  rw [field?, withSites_hierarchy]
  rfl

@[simp] theorem withSites_methods : (decls.withSites sites).methods = decls.methods := by
  funext id name
  rw [methods, withSites_hierarchy]
  rfl

@[simp] theorem withSites_selectOverload :
    (decls.withSites sites).selectOverload = decls.selectOverload := by
  funext candidates count
  cases count <;> rfl

@[simp] theorem withSites_method? : (decls.withSites sites).method? = decls.method? := by
  funext id name count
  rw [method?, withSites_selectOverload, withSites_methods, method?]

@[simp] theorem withSites_constructor? :
    (decls.withSites sites).constructor? = decls.constructor? := by
  funext id count
  rw [constructor?, withSites_selectOverload, withSites_constructors, constructor?]

theorem withSites_addOuter (rounds : Nat) (chain : List SymbolId) (current : Option SymbolId) :
    (decls.withSites sites).addOuter rounds chain current =
      decls.addOuter rounds chain current := by
  induction rounds generalizing chain current with
  | zero => rfl
  | succ rounds ih =>
      cases current with
      | none => rfl
      | some id =>
          rw [addOuter, addOuter, ih]
          rfl

@[simp] theorem withSites_enclosingChain :
    (decls.withSites sites).enclosingChain = decls.enclosingChain :=
  funext fun id => withSites_addOuter decls sites _ [] (some id)

@[simp] theorem withSites_simpleType? :
    (decls.withSites sites).simpleType? = decls.simpleType? := by
  funext view name
  simp only [simpleType?, enclosingMember?, onDemandImport?, withSites_units,
    withSites_packageType?, withSites_memberType?, withSites_typeNamed?]
  rfl

@[simp] theorem withSites_typeOf? : (decls.withSites sites).typeOf? = decls.typeOf? := by
  have hmembers : ∀ segments id,
      (decls.withSites sites).memberTypes? id segments = decls.memberTypes? id segments := by
    intro segments
    induction segments with
    | nil => exact fun _ => rfl
    | cons segment rest ih =>
        intro id
        rw [memberTypes?, memberTypes?, withSites_memberType?]
        exact congrArg _ (funext ih)
  funext view name
  cases name with
  | nil => rfl
  | cons first rest =>
      rw [typeOf?, typeOf?, withSites_simpleType?, withSites_typeNamed?]
      simp only [hmembers]

@[simp] theorem withSites_staticOwners :
    (decls.withSites sites).staticOwners = decls.staticOwners := rfl

@[simp] theorem withSites_staticField? :
    (decls.withSites sites).staticField? = decls.staticField? := by
  funext unit name
  rw [staticField?, withSites_staticOwners, withSites_field?, staticField?]

@[simp] theorem withSites_staticMethods :
    (decls.withSites sites).staticMethods = decls.staticMethods := by
  funext unit name
  rw [staticMethods, withSites_staticOwners, withSites_methods, staticMethods]

@[simp] theorem withSites_select : (decls.withSites sites).select = decls.select := by
  funext qualifier name position
  cases qualifier with
  | package package => rfl
  | type id =>
      simp only [select, select.selectFrom, withSites_field?, withSites_memberType?,
        withSites_methods, withSites_valueType?]
  | value id =>
      simp only [select, select.selectFrom, withSites_field?, withSites_memberType?,
        withSites_methods, withSites_valueType?]
  | unknown => rfl

/-!
# Linking
-/

theorem withSites_linkType (id : SymbolId) :
    (decls.withSites sites).linkType id = (decls.linkType id).withSites sites := by
  have hsupertype : (decls.withSites sites).supertype? = decls.supertype? := by
    funext id decl name
    rw [supertype?, viewFrom, withSites_typeOf?, withSites_enclosingChain]
    rfl
  rw [linkType, linkType, withSites_types, hsupertype]
  cases decls.types[id]? <;> rfl

theorem withSites_linkSupertypes :
    (decls.withSites sites).linkSupertypes = decls.linkSupertypes.withSites sites := by
  rw [linkSupertypes, linkSupertypes, withSites_types]
  induction decls.types.keys generalizing decls with
  | nil => rfl
  | cons id rest ih => rw [List.foldl_cons, List.foldl_cons, withSites_linkType, ih]

theorem withSites_linkMembers :
    (decls.withSites sites).linkMembers = decls.linkMembers.withSites sites := by
  have hmember : (decls.withSites sites).linkMember = decls.linkMember := by
    funext member
    simp only [linkMember, viewFrom, withSites_types, withSites_typeOf?, withSites_enclosingChain]
  rw [linkMembers, hmember]
  rfl

theorem withSites_annotationName :
    (decls.withSites sites).annotationName = decls.annotationName := by
  funext table use
  simp only [annotationName, withSites_typeOf?, withSites_enclosingChain, withSites_units]

end Declarations

theorem Collected.link_withSites (table : SymbolTable) (decls : Declarations)
    (sites : Std.TreeMap Path SymbolId) :
    (Collected.mk table (decls.withSites sites)).link =
      { (Collected.mk table decls).link with
        decls := (Collected.mk table decls).link.decls.withSites sites } := by
  have hattach : ∀ linked : Declarations,
      Collected.attach (linked.withSites sites) = Collected.attach linked := by
    intro linked
    funext table use
    rw [Collected.attach, Declarations.withSites_annotationName, Collected.attach]
  rw [Collected.link, Declarations.withSites_linkSupertypes, Declarations.withSites_linkSupertypes,
    Declarations.withSites_linkMembers, hattach]
  rfl

end RestrictedApi
