import RestrictedApi.Declarations.Lookup
import RestrictedApi.Usage

/-!
# The state of a walk

Usages are found by a walk over the syntax tree of a unit.  The walk keeps track of the enclosing
types, of the blocks whose locals are in scope, of the warnings that are silenced, and of the
switches around the current node; each is a stack, innermost first, and what opens an entry closes
it.  Symbols of locals, the places where they are declared and the references found are only ever
appended.
-/

namespace RestrictedApi

/-- What a name or expression denotes, as far as looking up its members goes. -/
inductive Meaning where
  | package (name : String)
  | type (id : SymbolId)
  | value (type : SymbolId)
  | unknown
  deriving DecidableEq, Repr, Inhabited

namespace Meaning

def ofType? : Option SymbolId → Meaning
  | some id => .value id
  | none => .unknown

def type? : Meaning → Option SymbolId
  | .type id => some id
  | _ => none

def receiver? : Meaning → Option SymbolId
  | .type id => some id
  | .value id => some id
  | _ => none

end Meaning

/-- Where a dotted name stands, which decides what its segments can denote. -/
inductive Position where
  | type
  | expression
  | inImport
  deriving DecidableEq, Repr, Inhabited

inductive Enclosing where
  | declared (id : SymbolId)
  /-- The body of an anonymous or local class, with its supertype if that is known. -/
  | anonymous (supertype : Option SymbolId)
  deriving DecidableEq, Repr, Inhabited

namespace Enclosing

def type? : Enclosing → Option SymbolId
  | .declared id => some id
  | .anonymous supertype => supertype

end Enclosing

structure Local where
  symbol : SymbolId
  type : Option SymbolId
  deriving DecidableEq, Repr, Inhabited

/-- The names that a block declares, the latest first. -/
structure Block where
  locals : List (String × Local) := []
  typeParameters : TypeParameters := []
  deriving DecidableEq, Repr, Inhabited

structure Reference where
  path : Path
  usage : Usage
  deriving DecidableEq, Repr, Inhabited

/-- A local that was declared at the node of a path, after some number of references. -/
structure Binding where
  path : Path
  name : String
  symbol : SymbolId
  earlier : Nat
  deriving DecidableEq, Repr, Inhabited

structure WalkedUnit where
  decls : Declarations
  unit : Nat
  package : String
  file : SourcePath
  deriving Inhabited

structure Walk where
  table : SymbolTable
  references : Array Reference := #[]
  bindings : Array Binding := #[]
  enclosing : List Enclosing := []
  blocks : List Block := [{}]
  /-- For each open declaration, all the warnings silenced within it. -/
  suppressions : List (List String) := [[]]
  switches : List (Option SymbolId) := []
  /-- References are reported only while this is zero. -/
  muted : Nat := 0
  tooDeep : Option Nat := none
  deriving DecidableEq, Repr, Inhabited

abbrev Walker := StateM Walk

abbrev Visit := Site → Walker Meaning

namespace Walk

def enclosingTypes (walk : Walk) : List SymbolId :=
  walk.enclosing.filterMap Enclosing.type?

def thisType? (walk : Walk) : Option SymbolId :=
  walk.enclosing.head?.bind Enclosing.type?

def superType? (walk : Walk) (decls : Declarations) : Option SymbolId :=
  walk.enclosing.head?.bind fun
    | .declared id => decls.superclass? id
    | .anonymous supertype => supertype

/-- The local that a name stands for: the latest of the innermost block that declares one. -/
def local? (walk : Walk) (name : String) : Option Local :=
  walk.blocks.findSome? fun block => block.locals.lookup name

def silenced (walk : Walk) : List String :=
  walk.suppressions.head?.getD []

def typeParameters (walk : Walk) : TypeParameters :=
  walk.blocks.flatMap (·.typeParameters)

def view (walk : Walk) (unit : Nat) : Viewpoint where
  unit := unit
  enclosing := walk.enclosingTypes
  parameters := walk.typeParameters

def modifyBlock (walk : Walk) (change : Block → Block) : Walk :=
  match walk.blocks with
  | [] => walk
  | block :: rest => { walk with blocks := change block :: rest }

end Walk

namespace Walker

/-! ## Opening and closing -/

def within {α : Type} (enclosing : Enclosing) (step : Walker α) : Walker α := do
  modify fun walk => { walk with enclosing := enclosing :: walk.enclosing }
  let result ← step
  modify fun walk => { walk with enclosing := walk.enclosing.tail }
  return result

def inBlock {α : Type} (step : Walker α) : Walker α := do
  modify fun walk => { walk with blocks := {} :: walk.blocks }
  let result ← step
  modify fun walk => { walk with blocks := walk.blocks.tail }
  return result

def underDeclaration {α : Type} (site : Site) (step : Walker α) : Walker α := do
  modify fun walk =>
    { walk with
      suppressions := (walk.silenced ++ site.suppressedWarnings) :: walk.suppressions }
  let result ← step
  modify fun walk => { walk with suppressions := walk.suppressions.tail }
  return result

def inSwitch {α : Type} (selector : Option SymbolId) (step : Walker α) : Walker α := do
  modify fun walk => { walk with switches := selector :: walk.switches }
  let result ← step
  modify fun walk => { walk with switches := walk.switches.tail }
  return result

def unheard {α : Type} (step : Walker α) : Walker α := do
  modify fun walk => { walk with muted := walk.muted + 1 }
  let result ← step
  modify fun walk => { walk with muted := walk.muted - 1 }
  return result

/-! ## Appending -/

def report (unit : WalkedUnit) (site : Site) (shape : UsageShape) (name : String)
    (target : Option SymbolId) (inImport : Bool) : Walker Unit :=
  modify fun walk =>
    if walk.muted > 0 then walk
    else
      let usage : Usage := {
        shape, name, inImport, target
        location := {
          file := unit.file, line := site.node.line, column := site.node.column
          offset := site.node.offset, length := site.node.length }
        suppressions := walk.silenced }
      { walk with references := walk.references.push { path := site.path, usage } }

def reportName (unit : WalkedUnit) (site : Site) (name : String) (target : Option SymbolId) :
    Walker Unit :=
  report unit site .identifier name target false

def reportSelection (unit : WalkedUnit) (site : Site) (name : String) (target : Option SymbolId) :
    Walker Unit :=
  report unit site .memberSelect name target false

def insertSymbol (symbol : Symbol) : Walker SymbolId :=
  modifyGet fun walk => (walk.table.size, { walk with table := walk.table.insert symbol })

def recordBinding (site : Site) (symbol : SymbolId) : Walker Unit :=
  modify fun walk =>
    let binding : Binding := {
      path := site.path, name := site.text, symbol, earlier := walk.references.size }
    { walk with bindings := walk.bindings.push binding }

def declare (unit : WalkedUnit) (nameSite : Option Site) (kind : SymbolKind)
    (type : Option SymbolId) : Walker Unit := do
  match nameSite with
  | none => pure ()
  | some site => do
      let name := site.text
      let owner := (← get).thisType?
      let symbol ← insertSymbol {
        name, qualifiedName := name, package := unit.package, kind, owner }
      recordBinding site symbol
      modify fun walk => walk.modifyBlock fun block =>
        { block with locals := (name, { symbol, type }) :: block.locals }

def declareTypeParameter (name : String) (id : SymbolId) : Walker Unit :=
  modify fun walk => walk.modifyBlock fun block =>
    { block with typeParameters := (name, id) :: block.typeParameters }

/-! ## Visiting -/

def visitAll (visit : Visit) (sites : List Site) : Walker Unit :=
  sites.forM fun site => discard (visit site)

def visitEach (visit : Visit) (sites : List Site) : Walker (List (Site × Meaning)) :=
  sites.mapM fun site => do
    let meaning ← visit site
    return (site, meaning)

def visitChildren (visit : Visit) (site : Site) : Walker Unit :=
  visitAll visit site.namedChildren

def visit? (visit : Visit) : Option Site → Walker Meaning
  | none => pure .unknown
  | some site => visit site

def meaningAt (visited : List (Site × Meaning)) (site : Option Site) : Meaning :=
  ((visited.find? fun entry => entry.1.isAt site).map (·.2)).getD .unknown

/-! ## Looking up -/

def simpleType? (unit : WalkedUnit) (name : String) : Walker (Option SymbolId) := do
  return unit.decls.simpleType? ((← get).view unit.unit) name

end Walker

namespace Declarations

/-- What a name selected from something denotes, and the symbol it refers to.  From a type or value,
fields come before member types; a type can be selected only from a type, or in a type name; and
an import may also name a method. -/
def select (decls : Declarations) (qualifier : Meaning) (name : String) (position : Position) :
    Option SymbolId × Meaning :=
  match qualifier with
  | .package package =>
      match decls.packageType? package name with
      | some type => (some type, .type type)
      | none =>
          let nested := package ++ "." ++ name
          match decls.package? nested with
          | some id => (some id, .package nested)
          | none => (none, .unknown)
  | .type id => selectFrom id true
  | .value id => selectFrom id false
  | .unknown => (none, .unknown)
where
  selectFrom (id : SymbolId) (fromType : Bool) : Option SymbolId × Meaning :=
    let field := if position = .type then none else decls.field? id name
    let member := if fromType || position = .type then decls.memberType? id name else none
    let method := if position = .inImport then (decls.methods id name).head? else none
    match field, member, method with
    | some field, _, _ => (some field, .ofType? (decls.valueType? field))
    | none, some member, _ => (some member, .type member)
    | none, none, some method => (some method, .unknown)
    | none, none, none => (none, .unknown)

end Declarations

end RestrictedApi
