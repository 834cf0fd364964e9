import RestrictedApi.Extraction.Walk

/-!
# Names in a walk

References in names of types, packages, imports and annotations, and in bare expression names.
-/

namespace RestrictedApi
namespace Walker

/-- A simple type name.  The word `var` stands for an inferred type and is no reference. -/
def typeIdentifier (unit : WalkedUnit) (site : Site) : Walker Meaning := do
  let name := site.text
  if name = "var" then return .unknown
  else
    let target ← simpleType? unit name
    reportName unit site name target
    return (target.map Meaning.type).getD .unknown

def packageName (unit : WalkedUnit) (site : Site) (inImport : Bool) : Walker Meaning := do
  let name := site.text
  let target := unit.decls.package? name
  report unit site .identifier name target inImport
  return (target.map fun _ => Meaning.package name).getD .unknown

/-- The leftmost segment of a qualified name: a type if one is in scope, or else a package. -/
def typeOrPackage (unit : WalkedUnit) (site : Site) : Walker Meaning := do
  match ← simpleType? unit site.text with
  | some type => do
      reportName unit site site.text (some type)
      return .type type
  | none => packageName unit site false

def lastTypeIdentifier? (site : Site) : Option Site :=
  (site.namedChildren.filter fun child => child.kind = .typeIdentifier).getLast?

mutual

def scopedType (unit : WalkedUnit) (visit : Visit) (path : Path) : Node → Walker Meaning
  | node@⟨_, _, _, _, _, _, _, _, children⟩ => do
      let site : Site := ⟨path, node⟩
      match lastTypeIdentifier? site with
      | none => do
          visitChildren visit site
          return .unknown
      | some last => do
          let qualifier ← scopedTypeParts unit visit last path 0 true children
          let (target, meaning) := unit.decls.select qualifier last.text .type
          reportSelection unit last last.text target
          return meaning

/-- The parts of a qualified type except its last segment.  The first part is the qualifier. -/
def scopedTypeParts (unit : WalkedUnit) (visit : Visit) (last : Site) (path : Path) (index : Nat)
    (first : Bool) : List Node → Walker Meaning
  | [] => pure .unknown
  | child :: rest => do
      if child.counts then
        let site : Site := ⟨index :: path, child⟩
        let meaning ←
          if site.same last then pure .unknown
          else if child.kind = .typeIdentifier && first then typeOrPackage unit site
          else if child.kind = .scopedTypeIdentifier then
            scopedType unit visit (index :: path) child
          else visit site
        let others ← scopedTypeParts unit visit last path (index + 1) false rest
        return if first then meaning else others
      else scopedTypeParts unit visit last path (index + 1) first rest

end

mutual

def dottedName (unit : WalkedUnit) (inImport : Bool) (path : Path) : Node → Walker Meaning
  | node@⟨kind, _, _, _, _, _, _, _, children⟩ => do
      let site : Site := ⟨path, node⟩
      if kind = .identifier then
        if inImport then packageName unit site true else typeOrPackage unit site
      else
        let qualifier ← dottedQualifier unit inImport path 0 children
        match site.child? .name with
        | none => return .unknown
        | some nameSite => do
            let position := if inImport then .inImport else .type
            let (target, meaning) := unit.decls.select qualifier nameSite.text position
            report unit nameSite .memberSelect nameSite.text target inImport
            return meaning

def dottedQualifier (unit : WalkedUnit) (inImport : Bool) (path : Path) (index : Nat) :
    List Node → Walker Meaning
  | [] => pure .unknown
  | child :: rest =>
      if child.role = some .scope then dottedName unit inImport (index :: path) child
      else dottedQualifier unit inImport path (index + 1) rest

end

def nameAt (unit : WalkedUnit) (inImport : Bool) (site : Site) : Walker Meaning :=
  dottedName unit inImport site.path site.node

/-- The argument of an annotation.  A key names an element of the annotation type. -/
def annotationArgument (unit : WalkedUnit) (visit : Visit) (type : Option SymbolId) (site : Site) :
    Walker Unit := do
  if site.kind = .elementValuePair then
    match site.child? .key with
    | none => pure ()
    | some key =>
        let element := type.bind fun type => (unit.decls.methods type key.text).head?
        reportName unit key key.text element
    discard (visit? visit (site.child? .value))
  else discard (visit site)

def annotationUse (unit : WalkedUnit) (visit : Visit) (site : Site) : Walker Unit := do
  let type ←
    match site.child? .name with
    | none => pure none
    | some nameSite => do
        let meaning ← nameAt unit false nameSite
        pure meaning.type?
  match site.child? .arguments with
  | none => pure ()
  | some arguments => arguments.namedChildren.forM (annotationArgument unit visit type)

def fieldInScope? (unit : WalkedUnit) (name : String) : Walker (Option SymbolId) := do
  let enclosing := (← get).enclosingTypes
  return enclosing.findSome? (fun type => unit.decls.field? type name) <|>
    unit.decls.staticField? unit.unit name

/-- A bare name in an expression: a local, or else a field, or else a type, or else a package. -/
def expressionName (unit : WalkedUnit) (site : Site) : Walker Meaning := do
  let name := site.text
  match (← get).local? name with
  | some found => do
      reportName unit site name (some found.symbol)
      return .ofType? found.type
  | none => do
      match ← fieldInScope? unit name with
      | some field => do
          reportName unit site name (some field)
          return .ofType? (unit.decls.valueType? field)
      | none => typeOrPackage unit site

end Walker
end RestrictedApi
