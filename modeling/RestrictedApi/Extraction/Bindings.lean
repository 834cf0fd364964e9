import RestrictedApi.Extraction.Expressions

/-!
# Declarations in a walk

Declarations open blocks, silence warnings and bring locals into scope.  The names that they declare
are no references; the types, initial values and bodies that they hold are walked.
-/

namespace RestrictedApi
namespace Walker

/-! ## Types and members -/

def localSupertype? (unit : WalkedUnit) (site : Site) : Walker (Option SymbolId) := do
  let name := do
    let clause ← site.child? .superclass
    let type ← clause.namedChildren.head?
    type.node.typeName?
  let view : Viewpoint := { unit := unit.unit, enclosing := (← get).enclosingTypes }
  return name.bind (unit.decls.typeOf? view)

/-- What a type declaration encloses its body with.  The members of a local class are not
collected, but those of its supertype are. -/
def enclosingOf (unit : WalkedUnit) (site : Site) : Walker Enclosing := do
  match unit.decls.sites[site.path]? with
  | some id => return .declared id
  | none => return .anonymous (← localSupertype? unit site)

/-- One part of the type of a parameter; `type` is what the parts before it have given. -/
def parameterPart (visit : Visit) (skipped : NodeKind → Bool) (type : Option SymbolId)
    (site : Site) : Walker (Option SymbolId) := do
  if skipped site.kind then return type
  else if site.kind = .modifiers then
    discard (visit site)
    return type
  else if site.kind = .catchType then
    match ← visitEach visit site.namedChildren with
    | [(_, single)] => return single.type?
    | _ => return type
  else
    let meaning ← visit site
    return meaning.type?

def isParameterName : NodeKind → Bool
  | .variableDeclarator | .dimensions | .underscorePattern => true
  | _ => false

def parameterType (visit : Visit) (site : Site) : Walker (Option SymbolId) :=
  (site.childrenExcept [site.child? .name]).foldlM (parameterPart visit isParameterName) none

/-- A child of a type declaration.  Of the components of a record only the types are walked. -/
def typeDeclarationPart (visit : Visit) (site : Site) : Walker Unit :=
  if site.kind = .formalParameters then
    site.namedChildren.forM fun component => discard (parameterType visit component)
  else discard (visit site)

def typeDeclaration (unit : WalkedUnit) (visit : Visit) (site : Site) : Walker Unit := do
  let enclosing ← enclosingOf unit site
  underDeclaration site <| within enclosing <| inBlock <|
    (site.childrenExcept [site.child? .name]).forM (typeDeclarationPart visit)

def fieldDeclaration (visit : Visit) (site : Site) : Walker Unit :=
  underDeclaration site (visitChildren visit site)

/-- Type parameters of a method of a class that is not collected. -/
def declareLocalTypeParameters (unit : WalkedUnit) (site : Site) : Walker Unit :=
  let parameters := ((site.child? .typeParameters).map Site.namedChildren).getD []
  (parameters.filterMap fun parameter => parameter.childOfKind? .typeIdentifier).forM
    fun nameSite => do
      let name := nameSite.text
      let id ← insertSymbol {
        name, qualifiedName := name, package := unit.package, kind := .typeParameter }
      declareTypeParameter name id

def openTypeParameters (unit : WalkedUnit) (site : Site) : Walker Unit :=
  match unit.decls.sites[site.path]?.bind fun id => unit.decls.members[id]? with
  | some member => member.typeParameters.forM fun (name, id) => declareTypeParameter name id
  | none => declareLocalTypeParameters unit site

def methodDeclaration (unit : WalkedUnit) (visit : Visit) (site : Site) : Walker Unit :=
  underDeclaration site <| inBlock do
    openTypeParameters unit site
    visitAll visit (site.childrenExcept [site.child? .name])

/-- An enum constant; its body is that of a subclass of the enum. -/
def enumConstant (visit : Visit) (site : Site) : Walker Unit :=
  underDeclaration site do
    let body := site.child? .body
    visitAll visit (site.childrenExcept [site.child? .name, body])
    match body with
    | none => pure ()
    | some body => anonymousBody visit (← get).thisType? body

/-! ## Variables and parameters -/

/-- One variable of a declaration.  Its type is the declared one, or that of its initial value if
the type is left open. -/
def localVariable (unit : WalkedUnit) (visit : Visit) (inferred : Bool)
    (declared : Option SymbolId) (site : Site) : Walker Unit := do
  let value ← visit? visit (site.child? .value)
  let type :=
    match value with
    | .value type => if inferred then some type else declared
    | _ => declared
  declare unit (site.child? .name) .localVariable type

def localVariables (unit : WalkedUnit) (visit : Visit) (site : Site) : Walker Unit :=
  underDeclaration site do
    let typeSite := site.child? .type
    let inferred := typeSite.any fun type => type.text = "var"
    let meaning ← visit? visit (typeSite.filter fun _ => !inferred)
    discard (visit? visit (site.childOfKind? .modifiers))
    (site.childrenIn .declarator).forM (localVariable unit visit inferred meaning.type?)

def parameterName? (site : Site) : Option Site :=
  site.child? .name <|>
    (site.childOfKind? .variableDeclarator).bind fun declarator => declarator.child? .name

def parameter (unit : WalkedUnit) (visit : Visit) (site : Site) : Walker Unit := do
  let type ← parameterType visit site
  let kind : SymbolKind :=
    if site.kind = .catchFormalParameter then .exceptionParameter else .parameter
  declare unit (parameterName? site) kind type

def variableType (visit : Visit) (site : Site) (roles : List Role) : Walker (Option SymbolId) :=
  let step (type : Option SymbolId) (part : Site) : Walker (Option SymbolId) := do
    if part.kind = .dimensions then return type
    else
      let meaning ← visit part
      return if part.kind = .modifiers then type else meaning.type?
  (site.childrenExcept ((Role.name :: roles).map site.child?)).foldlM step none

def enhancedFor (unit : WalkedUnit) (visit : Visit) (site : Site) : Walker Unit :=
  inBlock do
    let type ← variableType visit site [.value, .body]
    discard (visit? visit (site.child? .value))
    declare unit (site.child? .name) .localVariable type
    discard (visit? visit (site.child? .body))

def resource (unit : WalkedUnit) (visit : Visit) (site : Site) : Walker Unit := do
  match site.child? .name with
  | none => visitChildren visit site
  | some nameSite => do
      let type ← variableType visit site [.value]
      discard (visit? visit (site.child? .value))
      declare unit (some nameSite) .localVariable type

def lambdaParameters (unit : WalkedUnit) (visit : Visit) (site : Site) : Walker Unit :=
  match site.kind with
  | .identifier => declare unit (some site) .parameter none
  | .inferredParameters =>
      site.namedChildren.forM fun name => declare unit (some name) .parameter none
  | _ => visitChildren visit site

def lambda (unit : WalkedUnit) (visit : Visit) (site : Site) : Walker Unit :=
  inBlock do
    match site.child? .parameters with
    | none => pure ()
    | some parameters => lambdaParameters unit visit parameters
    discard (visit? visit (site.child? .body))

/-! ## Patterns -/

/-- A type test.  The variable that it binds stays in scope for the rest of the block. -/
def typeTest (unit : WalkedUnit) (visit : Visit) (site : Site) : Walker Unit := do
  let name := site.child? .name
  let visited ← visitEach visit (site.childrenExcept [name])
  declare unit name .localVariable (meaningAt visited (site.child? .right)).type?

/-- One part of a pattern: a name is bound with the type that stands before it. -/
def patternPart (unit : WalkedUnit) (visit : Visit) (type : Option SymbolId) (site : Site) :
    Walker (Option SymbolId) := do
  match site.kind with
  | .identifier => do
      declare unit (some site) .localVariable type
      return type
  | .modifiers => do
      discard (visit site)
      return type
  | _ => do
      let meaning ← visit site
      return meaning.type?

def typePattern (unit : WalkedUnit) (visit : Visit) (site : Site) : Walker Unit :=
  discard (site.namedChildren.foldlM (patternPart unit visit) none)

/-- A type parameter: its first type name is declared, the others are its bounds. -/
def typeParameter (visit : Visit) (site : Site) : Walker Unit :=
  visitAll visit (site.childrenExcept [site.childOfKind? .typeIdentifier])

end Walker
end RestrictedApi
