import RestrictedApi.Extraction.Names

/-!
# Expressions in a walk

References in selections, calls, operators, switches, object creations and method references, and
what the expressions denote.
-/

namespace RestrictedApi
namespace Walker

/-! ## Selections and calls -/

def receiverAt (unit : WalkedUnit) (visit : Visit) (site : Site) : Walker Meaning := do
  if site.kind = .superKeyword then return .ofType? ((← get).superType? unit.decls)
  else visit site

/-- What stands before the dot of a link: what the link before denotes, if there is one. -/
def linkReceiver (unit : WalkedUnit) (visit : Visit) (site : Site) (given : Option Meaning) :
    Walker Meaning :=
  match given with
  | some meaning => pure meaning
  | none =>
      match site.child? .object with
      | none => pure .unknown
      | some object => receiverAt unit visit object

def fieldAccess (unit : WalkedUnit) (visit : Visit) (site : Site) (given : Option Meaning) :
    Walker Meaning := do
  let qualifier ← linkReceiver unit visit site given
  match site.child? .field with
  | none => return .unknown
  | some field =>
      if field.kind = .thisKeyword then return .ofType? qualifier.type?
      else
        let (target, meaning) := unit.decls.select qualifier field.text .expression
        reportSelection unit field field.text target
        return meaning

/-- The method that a call without a receiver stands for: one of an enclosing type, innermost
first, or an imported one. -/
def methodInScope? (unit : WalkedUnit) (name : String) (count : Option Nat) :
    Walker (Option SymbolId) := do
  let enclosing := (← get).enclosingTypes
  return enclosing.findSome? (fun type => unit.decls.method? type name count) <|>
    unit.decls.selectOverload (unit.decls.staticMethods unit.unit name) count

def methodInvocation (unit : WalkedUnit) (visit : Visit) (site : Site) (given : Option Meaning) :
    Walker Meaning := do
  match site.child? .name with
  | none => do
      visitChildren visit site
      return .unknown
  | some nameSite => do
      let name := nameSite.text
      let arguments := site.child? .arguments
      let count := arguments.map Site.argumentCount
      let target ←
        match site.child? .object with
        | some _ => do
            let receiver ← linkReceiver unit visit site given
            let target := receiver.receiver?.bind fun type => unit.decls.method? type name count
            reportSelection unit nameSite name target
            pure target
        | none => do
            let target ← methodInScope? unit name count
            reportName unit nameSite name target
            pure target
      discard (visit? visit (site.child? .typeArguments))
      match arguments with
      | none => pure ()
      | some arguments => visitChildren visit arguments
      return .ofType? (target.bind unit.decls.valueType?)

def memberLink (unit : WalkedUnit) (visit : Visit) (given : Option Meaning) (site : Site) :
    Walker Meaning :=
  if site.kind = .methodInvocation then methodInvocation unit visit site given
  else fieldAccess unit visit site given

def memberLinks (unit : WalkedUnit) (visit : Visit) :
    Option Meaning → List Site → Walker (Option Meaning)
  | given, [] => pure given
  | given, link :: rest => do
      let meaning ← memberLink unit visit given link
      memberLinks unit visit (some meaning) rest

/-- A chain of selections and calls, from the innermost link outwards.  However long, a chain is one
level of the tree. -/
def memberChain (unit : WalkedUnit) (visit : Visit) (site : Site) : Walker Meaning := do
  let links := (site.chain .object NodeKind.isMemberLink).reverse
  let meaning ← memberLinks unit visit none links
  return meaning.getD .unknown

/-! ## Operators -/

def operatorChain (visit : Visit) (site : Site) : Walker Unit := do
  let links := (site.chain .left NodeKind.isOperatorLink).reverse
  discard (visit? visit (links.head?.bind fun link => link.child? .left))
  links.forM fun link => discard (visit? visit (link.child? .right))

def conditional (visit : Visit) (site : Site) : Walker Meaning := do
  let visited ← visitEach visit site.namedChildren
  return meaningAt visited (site.child? .consequence)

def assignment (visit : Visit) (site : Site) : Walker Meaning := do
  let left ← visit? visit (site.child? .left)
  discard (visit? visit (site.child? .right))
  return left

def cast (visit : Visit) (site : Site) : Walker Meaning := do
  let type ← visit? visit (site.child? .type)
  discard (visit? visit (site.child? .value))
  return .ofType? type.type?

def genericType (visit : Visit) (site : Site) : Walker Meaning := do
  let visited ← visitEach visit site.namedChildren
  return (visited.head?.map (·.2)).getD .unknown

/-! ## Switches -/

def switch (visit : Visit) (site : Site) : Walker Unit := do
  let selector ← visit? visit (site.child? .condition)
  inSwitch selector.receiver? (discard (visit? visit (site.child? .body)))

def enumConstant? (unit : WalkedUnit) (table : SymbolTable) (type : SymbolId) (name : String) :
    Option SymbolId :=
  (unit.decls.field? type name).filter fun field =>
    (table.get? field).any fun symbol => symbol.kind = .enumConstant

/-- One expression of a label.  A bare name may be a constant of the selector's type. -/
def labelPart (unit : WalkedUnit) (visit : Visit) (site : Site) : Walker Unit := do
  let walk ← get
  let selector := (walk.switches.head?.getD none).filter fun _ => site.kind = .identifier
  match selector.bind fun type => enumConstant? unit walk.table type site.text with
  | some constant => reportName unit site site.text (some constant)
  | none => discard (visit site)

def switchLabel (unit : WalkedUnit) (visit : Visit) (site : Site) : Walker Unit :=
  site.namedChildren.forM (labelPart unit visit)

/-! ## Objects and methods -/

def anonymousBody (visit : Visit) (supertype : Option SymbolId) (body : Site) : Walker Unit :=
  within (.anonymous supertype) (inBlock (visitChildren visit body))

/-- A creation: an outer instance and type arguments, the type, the arguments, and the body of an
anonymous class. -/
def objectCreation (visit : Visit) (site : Site) : Walker Meaning := do
  let typeSite := site.child? .type
  let arguments := site.child? .arguments
  let body := site.childOfKind? .classBody
  visitAll visit (site.childrenExcept [typeSite, arguments, body])
  let meaning ← visit? visit typeSite
  match arguments with
  | none => pure ()
  | some arguments => visitChildren visit arguments
  match body with
  | none => pure ()
  | some body => anonymousBody visit meaning.type? body
  return .ofType? meaning.type?

def isNameQualifier : NodeKind → Bool
  | .identifier | .fieldAccess | .scopedIdentifier | .typeIdentifier | .scopedTypeIdentifier
  | .genericType => true
  | _ => false

/-- What stands before the `::` of a method reference.  References within a name are not
reported. -/
def referenceQualifier (unit : WalkedUnit) (visit : Visit) (site : Site) : Walker Meaning := do
  if site.kind = .superKeyword then return .ofType? ((← get).superType? unit.decls)
  else if isNameQualifier site.kind then unheard (visit site)
  else visit site

def referencedMember (unit : WalkedUnit) (type : Option SymbolId) (member : Site) :
    Walker Unit :=
  match type, member.kind with
  | none, .identifier => reportSelection unit member member.text none
  | none, _ => pure ()
  | some type, .newKeyword =>
      reportSelection unit member "new" (unit.decls.constructors type).head?
  | some type, .identifier =>
      reportSelection unit member member.text (unit.decls.methods type member.text).head?
  | some _, _ => pure ()

def methodReference (unit : WalkedUnit) (visit : Visit) (site : Site) : Walker Unit := do
  match site.namedChildren with
  | [] => pure ()
  | qualifier :: rest => do
      let meaning ← referenceQualifier unit visit qualifier
      visitAll visit (rest.filter fun child => child.kind = .typeArguments)
      match site.children.getLast? with
      | none => pure ()
      | some member => referencedMember unit meaning.receiver? member

def constructorInvocation (unit : WalkedUnit) (visit : Visit) (site : Site) : Walker Unit := do
  discard (visit? visit (site.child? .object))
  discard (visit? visit (site.childOfKind? .typeArguments))
  let arguments := site.child? .arguments
  match site.child? .constructor with
  | none => pure ()
  | some keyword => do
      let walk ← get
      let isSuper := keyword.kind = .superKeyword
      let owner := if isSuper then walk.superType? unit.decls else walk.thisType?
      let target := owner.bind fun type =>
        unit.decls.constructor? type (arguments.map Site.argumentCount)
      reportName unit keyword (if isSuper then "super" else "this") target
  match arguments with
  | none => pure ()
  | some arguments => visitChildren visit arguments

end Walker
end RestrictedApi
