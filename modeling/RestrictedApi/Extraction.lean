import RestrictedApi.Extraction.Bindings

/-!
# Extracting usages

The walk over the syntax tree of a unit.  `Walker.step` says what happens at a node, given how to go
on below it; `Walker.visit` ties the knot, going down at most a given number of levels.  A tree that
is deeper is an error, not a reason to stop early: the line at which the limit was met is kept.
-/

namespace RestrictedApi
namespace Walker

/-- Do a step for its references only. -/
def silent (step : Walker Unit) : Walker Meaning := do
  step
  return .unknown

def step (unit : WalkedUnit) (visit : Visit) (site : Site) : Walker Meaning :=
  match site.kind with
  | .packageDeclaration => silent (site.annotations.forM (annotationUse unit visit))
  | .importDeclaration =>
      silent <|
        match site.namedChildren.find? fun child => child.kind.isName with
        | none => pure ()
        | some name => discard (nameAt unit true name)
  | .moduleDeclaration | .lineComment | .blockComment | .breakStatement | .continueStatement =>
      return .unknown
  | .classDeclaration | .interfaceDeclaration | .enumDeclaration | .annotationTypeDeclaration
  | .recordDeclaration => silent (typeDeclaration unit visit site)
  | .fieldDeclaration | .constantDeclaration => silent (fieldDeclaration visit site)
  | .methodDeclaration | .constructorDeclaration | .compactConstructorDeclaration
  | .annotationElementDeclaration => silent (methodDeclaration unit visit site)
  | .enumConstant => silent (enumConstant visit site)
  | .localVariableDeclaration => silent (localVariables unit visit site)
  | .formalParameter | .spreadParameter | .catchFormalParameter =>
      silent (parameter unit visit site)
  | .variableDeclarator => silent (discard (visit? visit (site.child? .value)))
  | .block | .constructorBody | .staticInitializer | .switchGroup | .switchRule | .forStatement
  | .catchClause | .tryWithResources => silent (inBlock (visitChildren visit site))
  | .enhancedForStatement => silent (enhancedFor unit visit site)
  | .resource => silent (resource unit visit site)
  | .lambdaExpression => silent (lambda unit visit site)
  | .labeledStatement => silent (visitAll visit (site.namedChildren.drop 1))
  | .explicitConstructorInvocation => silent (constructorInvocation unit visit site)
  | .typeIdentifier => typeIdentifier unit site
  | .scopedTypeIdentifier => scopedType unit visit site.path site.node
  | .genericType => genericType visit site
  | .typeParameter => silent (typeParameter visit site)
  | .annotationMarker | .annotationCall => silent (annotationUse unit visit site)
  | .identifier => expressionName unit site
  | .scopedIdentifier => nameAt unit false site
  | .fieldAccess | .methodInvocation => memberChain unit visit site
  | .binaryExpression => silent (operatorChain visit site)
  | .switchExpression => silent (switch visit site)
  | .switchLabel => silent (switchLabel unit visit site)
  | .objectCreation => objectCreation visit site
  | .methodReference => silent (methodReference unit visit site)
  | .thisKeyword => return .ofType? (← get).thisType?
  | .castExpression => cast visit site
  | .parenthesizedExpression => visit? visit site.namedChildren.head?
  | .ternaryExpression => conditional visit site
  | .assignmentExpression => assignment visit site
  | .instanceofExpression => silent (typeTest unit visit site)
  | .typePattern | .recordPatternComponent => silent (typePattern unit visit site)
  | _ => silent (visitChildren visit site)

def markTooDeep (site : Site) : Walker Unit :=
  modify fun walk => { walk with tooDeep := walk.tooDeep <|> some site.line }

/-- Visit a site, going down at most `levels` levels.  Once the limit has been met, nothing more is
visited. -/
def visit (unit : WalkedUnit) : (levels : Nat) → Site → Walker Meaning
  | 0, site => do
      markTooDeep site
      return .unknown
  | levels + 1, site => do
      if (← get).tooDeep.isSome then return .unknown
      else step unit (visit unit levels) site

end Walker

def nestingLimit : Nat := 256

namespace WalkedUnit

def walk (unit : WalkedUnit) (table : SymbolTable) (root : Node) : Walk :=
  ((Walker.visit unit nestingLimit ⟨[unit.unit], root⟩).run { table }).2

end WalkedUnit
end RestrictedApi
