import RestrictedApi.Declarations.Collection
import RestrictedApi.Declarations.Lookup

/-!
# Linking declarations

Once all units are collected, the names kept as written are resolved: the supertypes of types, the
types of members and the names of annotations.  Supertypes are linked in two rounds, in the order of
the symbols, because a name may denote a member type that is inherited through a supertype.
-/

namespace RestrictedApi
namespace Declarations

def viewFrom (decls : Declarations) (unit : Nat) (id : SymbolId) : Viewpoint :=
  { unit, enclosing := decls.enclosingChain id }

/-- The supertype that a name written in the declaration of `id` stands for.  No type is its own
supertype. -/
def supertype? (decls : Declarations) (id : SymbolId) (decl : TypeDecl) (name : DottedName) :
    Option SymbolId :=
  (decls.typeOf? (decls.viewFrom decl.unit id) name).filter (· ≠ id)

def linkType (decls : Declarations) (id : SymbolId) : Declarations :=
  match decls.types[id]? with
  | none => decls
  | some decl =>
      let superclass := decl.superclassName.bind (decls.supertype? id decl)
      let interfaces := decl.interfaceNames.filterMap (decls.supertype? id decl)
      decls.modifyType id fun decl => { decl with superclass, interfaces }

/-- One round over all types; a type sees what the types before it were linked to. -/
def linkSupertypes (decls : Declarations) : Declarations :=
  decls.types.keys.foldl linkType decls

def linkMember (decls : Declarations) (member : MemberDecl) : MemberDecl :=
  match member.declaredType, decls.types[member.owner]? with
  | some name, some owner =>
      let view := { decls.viewFrom owner.unit member.owner with
        parameters := member.typeParameters.reverse }
      { member with valueType := decls.typeOf? view name }
  | _, _ => member

def linkMembers (decls : Declarations) : Declarations :=
  { decls with members := decls.members.map fun _ member => decls.linkMember member }

/-- The dotted name of an annotation.  One that is not declared in the program takes its name from
the single-type import of its first segment, or else is left as written. -/
def annotationName (decls : Declarations) (table : SymbolTable) (use : PendingAnnotation) :
    String :=
  let view : Viewpoint := {
    unit := use.unit, enclosing := (use.context.map decls.enclosingChain).getD [] }
  match (decls.typeOf? view use.name).bind table.get? with
  | some symbol => symbol.qualifiedName
  | none =>
      match use.name with
      | [] => ""
      | first :: rest =>
          match decls.units[use.unit]?.bind fun names => names.singleTypes[first]? with
          | some imported => DottedName.toText (imported ++ rest)
          | none => DottedName.toText use.name

end Declarations

namespace Collected

def attach (decls : Declarations) (table : SymbolTable) (use : PendingAnnotation) : SymbolTable :=
  table.modify use.target (·.annotate [decls.annotationName table use])

/-- Resolve supertypes, types of members and annotations, in this order. -/
def link (collected : Collected) : Collected :=
  let decls := collected.decls.linkSupertypes.linkSupertypes.linkMembers
  { table := decls.pending.foldl (attach decls) collected.table
    decls := { decls with pending := #[] } }

end Collected
end RestrictedApi
