import RestrictedApi.Symbol
import RestrictedApi.Tree.Names
import Std.Data.TreeMap

/-!
# Declarations of a program

What the sources of a program declare, beyond the bare symbols: the packages and types by name, the
members of every type, the signature of every member, and the imports of every unit.
-/

namespace RestrictedApi

abbrev TypeParameters := List (String × SymbolId)

structure UnitNames where
  package : String := ""
  /-- Single-type imports, by the simple name they introduce. -/
  singleTypes : Std.TreeMap String DottedName := ∅
  onDemandTypes : List DottedName := []
  /-- Static imports of one member: the type and the member's name. -/
  singleStatics : List (DottedName × String) := []
  onDemandStatics : List DottedName := []
  deriving Inhabited

structure TypeDecl where
  unit : Nat
  outer : Option SymbolId := none
  typeParameters : TypeParameters := []
  /-- The supertypes as written. -/
  superclassName : Option DottedName := none
  interfaceNames : List DottedName := []
  /-- The supertypes that were found among the declared types. -/
  superclass : Option SymbolId := none
  interfaces : List SymbolId := []
  memberTypes : Std.TreeMap String SymbolId := ∅
  fields : Std.TreeMap String SymbolId := ∅
  methods : Std.TreeMap String (List SymbolId) := ∅
  constructors : List SymbolId := []
  components : Nat := 0
  deriving Inhabited

namespace TypeDecl

def supertypes (decl : TypeDecl) : List SymbolId :=
  decl.superclass.toList ++ decl.interfaces

def addMethod (decl : TypeDecl) (name : String) (id : SymbolId) : TypeDecl :=
  { decl with methods := decl.methods.insert name (decl.methods[name]?.getD [] ++ [id]) }

def addField (decl : TypeDecl) (name : String) (id : SymbolId) : TypeDecl :=
  { decl with fields := decl.fields.insert name id }

def addConstructor (decl : TypeDecl) (id : SymbolId) : TypeDecl :=
  { decl with constructors := decl.constructors ++ [id] }

def addMemberType (decl : TypeDecl) (name : String) (id : SymbolId) : TypeDecl :=
  { decl with memberTypes := decl.memberTypes.insert name id }

end TypeDecl

structure MemberDecl where
  owner : SymbolId
  arity : Nat := 0
  variadic : Bool := false
  typeParameters : TypeParameters := []
  /-- The type of the field, or the result type of the method, as written. -/
  declaredType : Option DottedName := none
  /-- The declared type that a use of the member has. -/
  valueType : Option SymbolId := none
  deriving Inhabited

structure PendingAnnotation where
  target : SymbolId
  unit : Nat
  /-- The type within which the name is to be resolved. -/
  context : Option SymbolId
  name : DottedName
  deriving Inhabited

structure Declarations where
  units : Array UnitNames := #[]
  packages : Std.TreeMap String SymbolId := ∅
  /-- Types by their dotted names; a later declaration replaces an earlier one. -/
  typesByName : Std.TreeMap String SymbolId := ∅
  /-- Types that no other type encloses, by package and simple name. -/
  packageTypes : Std.TreeMap String (Std.TreeMap String SymbolId) := ∅
  types : Std.TreeMap SymbolId TypeDecl := ∅
  members : Std.TreeMap SymbolId MemberDecl := ∅
  /-- The symbol that each declaring node has introduced. -/
  sites : Std.TreeMap Path SymbolId := ∅
  pending : Array PendingAnnotation := #[]
  deriving Inhabited

namespace Declarations

def modifyType (decls : Declarations) (id : SymbolId) (change : TypeDecl → TypeDecl) :
    Declarations :=
  { decls with types := decls.types.modify id change }

def package? (decls : Declarations) (name : String) : Option SymbolId :=
  decls.packages[name]?

def packageType? (decls : Declarations) (package name : String) : Option SymbolId :=
  decls.packageTypes[package]?.bind fun types => types[name]?

def typeNamed? (decls : Declarations) (name : DottedName) : Option SymbolId :=
  decls.typesByName[name.toText]?

def constructors (decls : Declarations) (id : SymbolId) : List SymbolId :=
  (decls.types[id]?.map (·.constructors)).getD []

def superclass? (decls : Declarations) (id : SymbolId) : Option SymbolId :=
  decls.types[id]?.bind (·.superclass)

def valueType? (decls : Declarations) (id : SymbolId) : Option SymbolId :=
  decls.members[id]?.bind (·.valueType)

end Declarations

end RestrictedApi
