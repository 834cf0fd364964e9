import RestrictedApi.Text.Segments

/-!
# Syntax trees

The concrete syntax tree of a Java source file.  A node has a kind, the role that it plays in its
parent, its place in the text, its own text and its children in order.  Kinds and roles that nothing
depends on are not told apart.

A node has no identity of its own: it is known by its path, so a `Site`, a node together with its
path, is what the passes over a tree work with.
-/

namespace RestrictedApi

inductive NodeKind where
  | packageDeclaration
  | importDeclaration
  | moduleDeclaration
  | lineComment
  | blockComment
  | classDeclaration
  | interfaceDeclaration
  | enumDeclaration
  | annotationTypeDeclaration
  | recordDeclaration
  | superclassClause
  | superInterfaces
  | extendsInterfaces
  | typeList
  | classBody
  | enumBodyDeclarations
  | fieldDeclaration
  | constantDeclaration
  | methodDeclaration
  | constructorDeclaration
  | compactConstructorDeclaration
  | annotationElementDeclaration
  | enumConstant
  | modifiers
  | annotationMarker
  | annotationCall
  | elementValuePair
  | formalParameters
  | formalParameter
  | spreadParameter
  | catchFormalParameter
  | catchType
  | inferredParameters
  | localVariableDeclaration
  | variableDeclarator
  | dimensions
  | underscorePattern
  | block
  | constructorBody
  | staticInitializer
  | switchExpression
  | switchLabel
  | switchGroup
  | switchRule
  | forStatement
  | enhancedForStatement
  | catchClause
  | tryWithResources
  | resource
  | labeledStatement
  | breakStatement
  | continueStatement
  | explicitConstructorInvocation
  | typeIdentifier
  | scopedTypeIdentifier
  | genericType
  | annotatedType
  | typeParameter
  | typeArguments
  | identifier
  | scopedIdentifier
  | asterisk
  | stringLiteral
  | fieldAccess
  | methodInvocation
  | methodReference
  | objectCreation
  | binaryExpression
  | castExpression
  | parenthesizedExpression
  | ternaryExpression
  | assignmentExpression
  | instanceofExpression
  | lambdaExpression
  | typePattern
  | recordPatternComponent
  | thisKeyword
  | superKeyword
  | newKeyword
  | staticKeyword
  | error
  | other
  deriving DecidableEq, Repr, Inhabited

inductive Role where
  | name
  | scope
  | type
  | value
  | body
  | declarator
  | parameters
  | typeParameters
  | superclass
  | object
  | field
  | arguments
  | typeArguments
  | constructor
  | left
  | right
  | condition
  | consequence
  | key
  deriving DecidableEq, Repr, Inhabited

namespace NodeKind

def isComment : NodeKind → Bool
  | .lineComment | .blockComment => true
  | _ => false

def isAnnotationUse : NodeKind → Bool
  | .annotationMarker | .annotationCall => true
  | _ => false

def isTypeDeclaration : NodeKind → Bool
  | .classDeclaration | .interfaceDeclaration | .enumDeclaration | .annotationTypeDeclaration
  | .recordDeclaration => true
  | _ => false

def isName : NodeKind → Bool
  | .identifier | .scopedIdentifier => true
  | _ => false

def isMemberLink : NodeKind → Bool
  | .fieldAccess | .methodInvocation => true
  | _ => false

def isOperatorLink (kind : NodeKind) : Bool :=
  kind = .binaryExpression

end NodeKind

structure Node where
  kind : NodeKind
  /-- Keywords and punctuation are nodes without a name in the grammar. -/
  named : Bool
  role : Option Role
  /-- Line and column count from one; columns, the offset and the length are in bytes. -/
  line : Nat
  column : Nat
  offset : Nat
  length : Nat
  text : String
  children : List Node
  deriving Repr, Inhabited

namespace Node

/-- Named nodes other than comments are what the passes look at. -/
def counts (node : Node) : Bool :=
  node.named && !node.kind.isComment

end Node

/-- The way from the list of units to a node: the number of the unit, then of a child at every
step, the last step first. -/
abbrev Path := List Nat

structure Site where
  path : Path
  node : Node
  deriving Repr, Inhabited

namespace Site

def kind (site : Site) : NodeKind :=
  site.node.kind

def text (site : Site) : String :=
  site.node.text

def line (site : Site) : Nat :=
  site.node.line

def number (path : Path) (index : Nat) : List Node → List Site
  | [] => []
  | node :: rest => ⟨index :: path, node⟩ :: number path (index + 1) rest

def children (site : Site) : List Site :=
  number site.path 0 site.node.children

def namedChildren (site : Site) : List Site :=
  site.children.filter fun child => child.node.counts

def child? (site : Site) (role : Role) : Option Site :=
  site.children.find? fun child => child.node.role = some role

def childrenIn (site : Site) (role : Role) : List Site :=
  site.children.filter fun child => child.node.role = some role

def childOfKind? (site : Site) (kind : NodeKind) : Option Site :=
  site.namedChildren.find? fun child => child.kind = kind

def same (a b : Site) : Bool :=
  a.path = b.path

def isAt (site : Site) (other : Option Site) : Bool :=
  other.any site.same

def childrenExcept (site : Site) (excluded : List (Option Site)) : List Site :=
  site.namedChildren.filter fun child => !excluded.any child.isAt

end Site

mutual

/-- The chain that starts at a node and goes on through children in a role, as long as their kind
continues it; outermost first. -/
def Node.chain (role : Role) (continues : NodeKind → Bool) (path : Path) : Node → List Site
  | node@⟨_, _, _, _, _, _, _, _, children⟩ =>
      ⟨path, node⟩ :: Node.chainIn role continues path 0 children

def Node.chainIn (role : Role) (continues : NodeKind → Bool) (path : Path) (index : Nat) :
    List Node → List Site
  | [] => []
  | child :: rest =>
      if child.role = some role then
        if continues child.kind then Node.chain role continues (index :: path) child else []
      else Node.chainIn role continues path (index + 1) rest

end

namespace Site

def chain (site : Site) (role : Role) (continues : NodeKind → Bool) : List Site :=
  site.node.chain role continues site.path

end Site

end RestrictedApi
