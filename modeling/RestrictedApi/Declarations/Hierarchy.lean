import RestrictedApi.Declarations

/-!
# The supertypes of a type

Members are inherited, so a member is looked for in a type and then in its supertypes, the nearest
first.  The hierarchy of a type is computed level by level: a level holds the supertypes of the
level before that have not been met yet.  This ends on any graph of types, also on one with cycles,
because every level but the last holds a declared type that no earlier level holds.
-/

namespace RestrictedApi
namespace Declarations

def supertypes (decls : Declarations) (id : SymbolId) : List SymbolId :=
  (decls.types[id]?.map TypeDecl.supertypes).getD []

def freshIn (found frontier : List SymbolId) : List SymbolId :=
  (frontier.filter fun id => !found.contains id).eraseDups

def addLevels (decls : Declarations) :
    (rounds : Nat) → (found frontier : List SymbolId) → List SymbolId
  | 0, found, _ => found
  | rounds + 1, found, frontier =>
      match freshIn found frontier with
      | [] => found
      | fresh =>
          decls.addLevels rounds (found ++ fresh) (fresh.flatMap decls.supertypes)

/-- A type followed by all its known supertypes, nearest first. -/
def hierarchy (decls : Declarations) (id : SymbolId) : List SymbolId :=
  decls.addLevels (decls.types.size + 2) [] [id]

def memberType? (decls : Declarations) (id : SymbolId) (name : String) : Option SymbolId :=
  (decls.hierarchy id).findSome? fun type =>
    decls.types[type]?.bind fun decl => decl.memberTypes[name]?

def field? (decls : Declarations) (id : SymbolId) (name : String) : Option SymbolId :=
  (decls.hierarchy id).findSome? fun type =>
    decls.types[type]?.bind fun decl => decl.fields[name]?

def methods (decls : Declarations) (id : SymbolId) (name : String) : List SymbolId :=
  (decls.hierarchy id).flatMap fun type =>
    (decls.types[type]?.bind fun decl => decl.methods[name]?).getD []

def takesExactly (decls : Declarations) (count : Nat) (id : SymbolId) : Bool :=
  decls.members[id]?.any fun member => member.arity == count && !member.variadic

/-- A variadic member takes `count` arguments if at most its last parameter is left without. -/
def takesVariadic (decls : Declarations) (count : Nat) (id : SymbolId) : Bool :=
  decls.members[id]?.any fun member => member.variadic && member.arity ≤ count + 1

/-- The first candidate that takes a number of arguments; one of fixed arity is preferred.  If the
number is not known, the first candidate of all. -/
def selectOverload (decls : Declarations) (candidates : List SymbolId) :
    Option Nat → Option SymbolId
  | none => candidates.head?
  | some count =>
      candidates.find? (decls.takesExactly count) <|>
        candidates.find? (decls.takesVariadic count)

def method? (decls : Declarations) (id : SymbolId) (name : String) (count : Option Nat) :
    Option SymbolId :=
  decls.selectOverload (decls.methods id name) count

def constructor? (decls : Declarations) (id : SymbolId) (count : Option Nat) : Option SymbolId :=
  decls.selectOverload (decls.constructors id) count

/-- Add the types around `current` to `chain`, stopping at one that is in it. -/
def addOuter (decls : Declarations) :
    (rounds : Nat) → (chain : List SymbolId) → (current : Option SymbolId) → List SymbolId
  | 0, chain, _ => chain
  | _, chain, none => chain
  | rounds + 1, chain, some id =>
      if chain.contains id then chain
      else decls.addOuter rounds (chain ++ [id]) (decls.types[id]?.bind (·.outer))

def enclosingChain (decls : Declarations) (id : SymbolId) : List SymbolId :=
  decls.addOuter (decls.types.size + 2) [] (some id)

end Declarations
end RestrictedApi
