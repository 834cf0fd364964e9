import RestrictedApi.Text.Blank
import RestrictedApi.Tree

/-!
# Names and annotations in syntax trees

What the passes read off a tree without resolving anything: the segments of names and types, the
annotations on a declaration, the warnings these silence, and the shape of parameter lists.
-/

namespace RestrictedApi

abbrev DottedName := List String

/-- The segments of a dotted name as written; blanks around the dots do not count. -/
def DottedName.ofText (text : String) : DottedName :=
  ((Text.segments '.' text).map Text.trim).filter (· ≠ "")

def DottedName.toText (name : DottedName) : String :=
  ".".intercalate name

namespace Node

mutual

/-- The name of a reference type, without type arguments and annotations.  Primitive types, `void`
and arrays have none. -/
def typeName? : Node → Option DottedName
  | ⟨kind, _, _, _, _, _, _, text, children⟩ =>
      match kind with
      | .typeIdentifier | .identifier => some [text]
      | .scopedTypeIdentifier | .scopedIdentifier => typeSegments? children
      | .genericType => genericBase? children
      | .annotatedType => annotatedBase? children
      | _ => none

def typeSegments? : List Node → Option DottedName
  | [] => some []
  | child :: rest =>
      if child.counts then
        match child.kind with
        | .typeIdentifier | .identifier => (typeSegments? rest).map (child.text :: ·)
        | .scopedTypeIdentifier | .scopedIdentifier | .genericType =>
            (typeName? child).bind fun segments => (typeSegments? rest).map (segments ++ ·)
        | _ => typeSegments? rest
      else typeSegments? rest

def genericBase? : List Node → Option DottedName
  | [] => none
  | child :: rest =>
      if child.counts && (child.kind = .typeIdentifier || child.kind = .scopedTypeIdentifier) then
        typeName? child
      else genericBase? rest

/-- The type that annotations are written before: the last child that is no annotation. -/
def annotatedBase? : List Node → Option DottedName
  | [] => none
  | child :: rest =>
      if rest.any fun later => later.counts && !later.kind.isAnnotationUse then annotatedBase? rest
      else if child.counts && !child.kind.isAnnotationUse then typeName? child
      else none

end

mutual

/-- The string literals in a tree, without their quotes. -/
def strings : Node → List String
  | ⟨kind, _, _, _, _, _, _, text, children⟩ =>
      if kind = .stringLiteral then [Text.strip (· = '"') text] else stringsIn children

def stringsIn : List Node → List String
  | [] => []
  | child :: rest =>
      if child.counts then strings child ++ stringsIn rest else stringsIn rest

end

end Node

namespace Site

/-- The annotations on a declaration: those among its modifiers, or, for a package, those written
directly before it. -/
def annotations (site : Site) : List Site :=
  let holder :=
    if site.kind = .packageDeclaration then some site else site.childOfKind? .modifiers
  (holder.map namedChildren).getD [] |>.filter fun child => child.kind.isAnnotationUse

def annotationName (site : Site) : DottedName :=
  ((site.child? .name).map fun name => DottedName.ofText name.text).getD []

def suppressedWarnings (site : Site) : List String :=
  site.annotations.flatMap fun use =>
    if use.annotationName.getLast? = some "SuppressWarnings" then
      ((use.child? .arguments).map fun arguments => arguments.node.strings).getD []
    else []

/-- How many parameters a list declares, and whether one of them takes any number of arguments. -/
def parameterShape (site : Site) : Nat × Bool :=
  let kinds := site.namedChildren.map kind
  (kinds.countP fun kind => kind = .formalParameter || kind = .spreadParameter,
    kinds.contains .spreadParameter)

def argumentCount (site : Site) : Nat :=
  site.namedChildren.length

end Site

end RestrictedApi
