import RestrictedApi.Declarations

/-!
# Collecting declarations

One pass over the syntax trees of a program, unit by unit.  Every package, type, member and type
parameter becomes a symbol, numbered in the order of the pass, and is recorded under its name.
Nothing is resolved yet: supertypes, types of members and annotations are kept as written.
-/

namespace RestrictedApi

structure Collected where
  table : SymbolTable := {}
  decls : Declarations := {}
  deriving Inhabited

abbrev Collector := StateM Collected

structure CollectingUnit where
  unit : Nat
  package : String := ""
  packageSymbol : Option SymbolId := none
  deriving Inhabited

structure Owner where
  id : SymbolId
  qualifiedName : String
  deriving Inhabited

def constructorName : String := "<init>"

namespace Collector

def insertSymbol (symbol : Symbol) : Collector SymbolId :=
  modifyGet fun state => (state.table.size, { state with table := state.table.insert symbol })

def modifyDecls (change : Declarations → Declarations) : Collector Unit :=
  modify fun state => { state with decls := change state.decls }

def recordSite (site : Site) (id : SymbolId) : Collector Unit :=
  modifyDecls fun decls => { decls with sites := decls.sites.insert site.path id }

def recordMember (id : SymbolId) (member : MemberDecl) : Collector Unit :=
  modifyDecls fun decls => { decls with members := decls.members.insert id member }

/-- Keep the annotations of a declaration for later, except those without a name. -/
def queueAnnotations (unit : Nat) (site : Site) (target : SymbolId) (context : Option SymbolId) :
    Collector Unit :=
  let names := (site.annotations.map Site.annotationName).filter (· ≠ [])
  let queued := names.map fun name => { target, unit, context, name : PendingAnnotation }
  modifyDecls fun decls => { decls with pending := decls.pending ++ queued.toArray }

/-! ## Packages and imports -/

/-- The package of a name and its parents, from the outermost on; those that are new get a
symbol. -/
def ensurePackage (name : DottedName) : Collector (Option SymbolId) := do
  let step (outer : Option (String × SymbolId)) (segment : String) :
      Collector (Option (String × SymbolId)) := do
    let full := (outer.map fun parent => parent.1 ++ "." ++ segment).getD segment
    match (← get).decls.package? full with
    | some id => return some (full, id)
    | none => do
        let id ← insertSymbol {
          name := segment, qualifiedName := full, package := full, kind := .package
          owner := outer.map (·.2) }
        modifyDecls fun decls => { decls with packages := decls.packages.insert full id }
        return some (full, id)
  let last ← name.foldlM step none
  return last.map (·.2)

def declarePackage (unit : Nat) (site : Site) : Collector CollectingUnit := do
  match site.namedChildren.find? fun child => child.kind.isName with
  | none => return { unit }
  | some nameSite => do
      let name := DottedName.ofText nameSite.text
      let packageSymbol ← ensurePackage name
      match packageSymbol with
      | none => pure ()
      | some id => queueAnnotations unit site id none
      return { unit, package := name.toText, packageSymbol }

/-- The name, whether it is static, and whether it is on demand, of an import. -/
def importParts (site : Site) : DottedName × Bool × Bool :=
  let names := site.children.filter fun child => child.kind.isName
  let name := (names.getLast?.map fun child => DottedName.ofText child.text).getD []
  (name, site.children.any (·.kind = .staticKeyword), site.children.any (·.kind = .asterisk))

def addImport (names : UnitNames) (site : Site) : UnitNames :=
  match importParts site with
  | ([], _, _) => names
  | (name, true, true) => { names with onDemandStatics := names.onDemandStatics ++ [name] }
  | (name, true, false) =>
      { names with
        singleStatics := names.singleStatics ++ [(name.dropLast, name.getLast?.getD "")] }
  | (name, false, true) => { names with onDemandTypes := names.onDemandTypes ++ [name] }
  | (name, false, false) =>
      { names with singleTypes := names.singleTypes.insert (name.getLast?.getD "") name }

/-! ## Members -/

def declareTypeParameters (unit : CollectingUnit) (site : Site) (owner : SymbolId) :
    Collector TypeParameters :=
  let parameters := ((site.child? .typeParameters).map Site.namedChildren).getD []
  let named := (parameters.filter fun parameter => parameter.kind = .typeParameter).filterMap
    fun parameter => parameter.childOfKind? .typeIdentifier
  named.mapM fun nameSite => do
    let name := nameSite.text
    let id ← insertSymbol {
      name, qualifiedName := name, package := unit.package, kind := .typeParameter
      owner := some owner }
    return (name, id)

def declareMember (unit : CollectingUnit) (site : Site) (name : String) (kind : SymbolKind)
    (owner : Owner) : Collector SymbolId := do
  let id ← insertSymbol {
    name, qualifiedName := name, package := unit.package, kind, owner := some owner.id }
  recordSite site id
  queueAnnotations unit.unit site id (some owner.id)
  return id

def modifyOwner (owner : Owner) (change : TypeDecl → TypeDecl) : Collector Unit :=
  modifyDecls fun decls => decls.modifyType owner.id change

def declaredType? (site : Site) : Option DottedName :=
  (site.child? .type).bind fun type => type.node.typeName?

def declareEnumConstant (unit : CollectingUnit) (owner : Owner) (site : Site) : Collector Unit := do
  match site.child? .name with
  | none => pure ()
  | some nameSite => do
      let name := nameSite.text
      let id ← declareMember unit site name .enumConstant owner
      recordMember id { owner := owner.id, valueType := some owner.id }
      modifyOwner owner (·.addField name id)

/-- A field declaration introduces a field for each of its declarators, all with its annotations. -/
def declareFields (unit : CollectingUnit) (owner : Owner) (site : Site) : Collector Unit :=
  (site.childrenIn .declarator).forM fun declarator => do
    match declarator.child? .name with
    | none => pure ()
    | some nameSite => do
        let name := nameSite.text
        let id ← declareMember unit site name .field owner
        recordSite declarator id
        recordMember id { owner := owner.id, declaredType := declaredType? site }
        modifyOwner owner (·.addField name id)

def declareMethod (unit : CollectingUnit) (owner : Owner) (site : Site) : Collector Unit := do
  match site.child? .name with
  | none => pure ()
  | some nameSite => do
      let name := nameSite.text
      let id ← declareMember unit site name .method owner
      let (arity, variadic) := ((site.child? .parameters).map Site.parameterShape).getD (0, false)
      let typeParameters ← declareTypeParameters unit site id
      recordMember id {
        owner := owner.id, arity, variadic, typeParameters, declaredType := declaredType? site }
      modifyOwner owner (·.addMethod name id)

def componentsOf (owner : Owner) : Collector Nat := do
  return ((← get).decls.types[owner.id]?.map (·.components)).getD 0

/-- A constructor without a parameter list of its own has the components of its record. -/
def declareConstructor (unit : CollectingUnit) (owner : Owner) (site : Site) : Collector Unit := do
  let id ← declareMember unit site constructorName .constructor owner
  let components ← componentsOf owner
  let (arity, variadic) :=
    ((site.child? .parameters).map Site.parameterShape).getD (components, false)
  let typeParameters ← declareTypeParameters unit site id
  recordMember id { owner := owner.id, arity, variadic, typeParameters, valueType := some owner.id }
  modifyOwner owner (·.addConstructor id)

/-- A named component of a record is a field and an accessor method. -/
def declareComponent (unit : CollectingUnit) (owner : Owner) (site : Site) : Collector Unit := do
  match site.child? .name with
  | none => pure ()
  | some nameSite => do
      let name := nameSite.text
      let field ← declareMember unit site name .field owner
      let accessor ← insertSymbol {
        name, qualifiedName := name, package := unit.package, kind := .method
        owner := some owner.id }
      let member : MemberDecl := { owner := owner.id, declaredType := declaredType? site }
      recordMember field member
      recordMember accessor member
      modifyOwner owner fun decl =>
        { (decl.addField name field).addMethod name accessor with
          components := decl.components + 1 }

def declareComponents (unit : CollectingUnit) (owner : Owner) (site : Site) : Collector Unit :=
  (((site.child? .parameters).map Site.namedChildren).getD []).forM (declareComponent unit owner)

/-- A class without a constructor gets one that takes its components. -/
def declareDefaultConstructor (unit : CollectingUnit) (owner : Owner) : Collector Unit := do
  if ((← get).decls.constructors owner.id).isEmpty then
    let arity ← componentsOf owner
    let id ← insertSymbol {
      name := constructorName, qualifiedName := constructorName, package := unit.package
      kind := .constructor, owner := some owner.id }
    recordMember id { owner := owner.id, arity, valueType := some owner.id }
    modifyOwner owner (·.addConstructor id)
  else pure ()

/-! ## Types -/

def typeKind : NodeKind → SymbolKind
  | .interfaceDeclaration => .interfaceType
  | .enumDeclaration => .enumType
  | .annotationTypeDeclaration => .annotationType
  | _ => .classType

/-- The superclass as written: the first type of the clause that has a name. -/
def superclassName? (site : Site) : Option DottedName :=
  let clauses := site.namedChildren.filter fun child => child.kind = .superclassClause
  clauses.getLast?.bind fun clause =>
    clause.namedChildren.findSome? fun type => type.node.typeName?

end Collector

namespace Node

mutual

def typeList : Node → List DottedName
  | ⟨_, _, _, _, _, _, _, _, children⟩ => typeListIn children

def typeListIn : List Node → List DottedName
  | [] => []
  | child :: rest =>
      if child.counts then
        (if child.kind = .typeList then typeList child else child.typeName?.toList)
          ++ typeListIn rest
      else typeListIn rest

end

end Node

namespace Collector

def interfaceNames (site : Site) : List DottedName :=
  let clauses := site.namedChildren.filter fun child =>
    child.kind = .superInterfaces || child.kind = .extendsInterfaces
  clauses.flatMap fun clause => clause.node.typeList

def qualifiedTypeName (unit : CollectingUnit) (outer : Option Owner) (name : String) : String :=
  match outer with
  | some owner =>
      if owner.qualifiedName = "" then
        if unit.package = "" then name else unit.package ++ "." ++ name
      else owner.qualifiedName ++ "." ++ name
  | none => if unit.package = "" then name else unit.package ++ "." ++ name

def declareType (unit : CollectingUnit) (outer : Option Owner) (site : Site) (name : String) :
    Collector Owner := do
  let qualifiedName := qualifiedTypeName unit outer name
  let enclosing := outer.map (·.id)
  let id ← insertSymbol {
    name, qualifiedName, package := unit.package, kind := typeKind site.kind
    owner := enclosing <|> unit.packageSymbol }
  recordSite site id
  queueAnnotations unit.unit site id enclosing
  let typeParameters ← declareTypeParameters unit site id
  let decl : TypeDecl := {
    unit := unit.unit, outer := enclosing, typeParameters
    superclassName := superclassName? site, interfaceNames := interfaceNames site }
  match outer with
  | some owner => modifyOwner owner (·.addMemberType name id)
  | none =>
      modifyDecls fun decls =>
        let types := decls.packageTypes[unit.package]?.getD ∅
        { decls with packageTypes := decls.packageTypes.insert unit.package (types.insert name id) }
  modifyDecls fun decls =>
    { decls with
      typesByName := decls.typesByName.insert qualifiedName id
      types := decls.types.insert id decl }
  return { id, qualifiedName }

/-- What follows the members of a type: classes and enums may need a constructor. -/
def finishType (unit : CollectingUnit) (owner : Owner) (kind : NodeKind) : Collector Unit :=
  if typeKind kind = .classType ∨ typeKind kind = .enumType then
    declareDefaultConstructor unit owner
  else pure ()

mutual

/-- Collect a declaration and what it encloses.  Outside of types only types are declared. -/
def declareNode (unit : CollectingUnit) (outer : Option Owner) (path : Path) :
    Node → Collector Unit
  | node@⟨kind, _, _, _, _, _, _, _, children⟩ =>
      let site : Site := ⟨path, node⟩
      if kind.isTypeDeclaration then
        match site.child? .name with
        | none => pure ()
        | some nameSite => do
            let owner ← declareType unit outer site nameSite.text
            if kind = .recordDeclaration then declareComponents unit owner site
            declareBody unit owner path 0 children
            finishType unit owner kind
      else
        match outer, kind with
        | none, _ => pure ()
        | some _, .enumBodyDeclarations => declareNodes unit outer path 0 children
        | some owner, .enumConstant => declareEnumConstant unit owner site
        | some owner, .fieldDeclaration => declareFields unit owner site
        | some owner, .constantDeclaration => declareFields unit owner site
        | some owner, .methodDeclaration => declareMethod unit owner site
        | some owner, .annotationElementDeclaration => declareMethod unit owner site
        | some owner, .constructorDeclaration => declareConstructor unit owner site
        | some owner, .compactConstructorDeclaration => declareConstructor unit owner site
        | some _, _ => pure ()

/-- Collect the members in the body of a type, which is its first child in that role. -/
def declareBody (unit : CollectingUnit) (owner : Owner) (path : Path) (index : Nat) :
    List Node → Collector Unit
  | [] => pure ()
  | ⟨_, _, role, _, _, _, _, _, members⟩ :: rest =>
      if role = some .body then declareNodes unit (some owner) (index :: path) 0 members
      else declareBody unit owner path (index + 1) rest

def declareNodes (unit : CollectingUnit) (outer : Option Owner) (path : Path) (index : Nat) :
    List Node → Collector Unit
  | [] => pure ()
  | node :: rest => do
      if node.counts then declareNode unit outer (index :: path) node
      declareNodes unit outer path (index + 1) rest

end

def declareUnit (number : Nat) (root : Node) : Collector Unit := do
  let site : Site := ⟨[number], root⟩
  let children := site.namedChildren
  let unit ←
    match children.find? fun child => child.kind = .packageDeclaration with
    | none => pure { unit := number }
    | some declaration => declarePackage number declaration
  let imports := children.filter fun child => child.kind = .importDeclaration
  let names := imports.foldl addImport { package := unit.package }
  modifyDecls fun decls => { decls with units := decls.units.push names }
  declareNodes unit none site.path 0 root.children

end Collector

namespace Collected

def ofUnits (roots : List Node) : Collected :=
  let step (state : Collected) (unit : Node × Nat) : Collected :=
    ((Collector.declareUnit unit.2 unit.1).run state).2
  roots.zipIdx.foldl step {}

end Collected

end RestrictedApi
