import RestrictedApi.Declarations.Hierarchy

/-!
# Looking up names

How a name that stands for a type is resolved.  A simple name is looked for in a fixed order: type
parameters in scope, type parameters of the enclosing types, member types of the enclosing types,
single-type imports, the package of the unit, and on-demand imports.  The first of these that knows
the name decides.
-/

namespace RestrictedApi

/-- Where a name stands: its unit, the enclosing types and the type parameters in scope, both
innermost first. -/
structure Viewpoint where
  unit : Nat
  enclosing : List SymbolId := []
  parameters : TypeParameters := []
  deriving Inhabited

namespace TypeParameters

def find? (parameters : TypeParameters) (name : String) : Option SymbolId :=
  (List.find? (fun entry => entry.1 == name) parameters).map (·.2)

end TypeParameters

namespace Declarations

def enclosingParameter? (decls : Declarations) (enclosing : List SymbolId) (name : String) :
    Option SymbolId :=
  enclosing.findSome? fun id =>
    decls.types[id]?.bind fun decl => TypeParameters.find? decl.typeParameters name

def enclosingMember? (decls : Declarations) (enclosing : List SymbolId) (name : String) :
    Option SymbolId :=
  enclosing.findSome? fun id => decls.memberType? id name

def singleImport? (decls : Declarations) (names : UnitNames) (name : String) : Option SymbolId :=
  names.singleTypes[name]?.bind decls.typeNamed?

/-- A type of an imported package, or a member type of an imported type. -/
def onDemandImport? (decls : Declarations) (names : UnitNames) (name : String) : Option SymbolId :=
  names.onDemandTypes.findSome? fun imported =>
    decls.packageType? imported.toText name <|>
      (decls.typeNamed? imported).bind fun type => decls.memberType? type name

def simpleType? (decls : Declarations) (view : Viewpoint) (name : String) : Option SymbolId :=
  decls.units[view.unit]?.bind fun names =>
    TypeParameters.find? view.parameters name
      <|> decls.enclosingParameter? view.enclosing name
      <|> decls.enclosingMember? view.enclosing name
      <|> decls.singleImport? names name
      <|> decls.packageType? names.package name
      <|> decls.onDemandImport? names name

def memberTypes? (decls : Declarations) : SymbolId → DottedName → Option SymbolId
  | id, [] => some id
  | id, segment :: rest =>
      (decls.memberType? id segment).bind fun next => decls.memberTypes? next rest

/-- The type that a possibly qualified name stands for.  If its first segment is a type, the others
are member types; otherwise the whole is the dotted name of a type. -/
def typeOf? (decls : Declarations) (view : Viewpoint) (name : DottedName) : Option SymbolId :=
  match name with
  | [] => none
  | first :: rest =>
      match decls.simpleType? view first with
      | some id => decls.memberTypes? id rest
      | none => if rest = [] then none else decls.typeNamed? name

def staticOwners (decls : Declarations) (unit : Nat) (name : String) : List SymbolId :=
  match decls.units[unit]? with
  | none => []
  | some names =>
      let single := names.singleStatics.filter fun entry => entry.2 == name
      (single.map (·.1) ++ names.onDemandStatics).filterMap decls.typeNamed?

def staticField? (decls : Declarations) (unit : Nat) (name : String) : Option SymbolId :=
  (decls.staticOwners unit name).findSome? fun owner => decls.field? owner name

def staticMethods (decls : Declarations) (unit : Nat) (name : String) : List SymbolId :=
  (decls.staticOwners unit name).flatMap fun owner => decls.methods owner name

end Declarations
end RestrictedApi
