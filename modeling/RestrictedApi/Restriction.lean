import RestrictedApi.Usage
import Std.Data.TreeSet

/-!
# Restrictions

A restriction says which declarations are not to be used: those under a base namespace that carry
a given annotation, or whose enclosing declaration does.  Packages and types can be exempted, by
name or by a predicate.
-/

namespace RestrictedApi

structure Restriction where
  /-- The dotted name of the package, with its subpackages, that the rule covers. -/
  baseNamespace : String
  marker : String
  ignoredNamespaces : Std.TreeSet String := ∅
  ignoredTypes : Std.TreeSet String := ∅
  namespaceFilter : Option (String → Bool) := none
  typeFilter : Option (String → Bool) := none

namespace Restriction

def ignoreNamespaces (restriction : Restriction) (names : List String) : Restriction :=
  { restriction with ignoredNamespaces := restriction.ignoredNamespaces.insertMany names }

def ignoreTypes (restriction : Restriction) (names : List String) : Restriction :=
  { restriction with ignoredTypes := restriction.ignoredTypes.insertMany names }

def isIgnoredNamespace (restriction : Restriction) (name : String) : Bool :=
  restriction.ignoredNamespaces.contains name || restriction.namespaceFilter.any (· name)

def isIgnoredType (restriction : Restriction) (name : String) : Bool :=
  restriction.ignoredTypes.contains name || restriction.typeFilter.any (· name)

/-- The base namespace contains itself and every package below it.  A package whose name merely
starts with the same letters is outside: the next character must be a dot. -/
def containsNamespace (restriction : Restriction) (name : String) : Bool :=
  name == restriction.baseNamespace || Text.begins name (restriction.baseNamespace ++ ".")

def covers (restriction : Restriction) (package : String) : Bool :=
  !restriction.isIgnoredNamespace package && restriction.containsNamespace package

def exempts (restriction : Restriction) (symbol : Symbol) : Bool :=
  symbol.qualifiedName != "" && restriction.isIgnoredType symbol.qualifiedName

def ownerLimit : Nat := 256

/-- Walk an owner chain for at most `steps` symbols.  An exempt symbol ends the walk with no
finding, a symbol with the annotation with a finding; the walk goes on to the owner only from
kinds that inherit from it. -/
def restrictedWithin (restriction : Restriction) (table : SymbolTable) :
    (steps : Nat) → Option Symbol → Bool
  | 0, _ => false
  | _, none => false
  | steps + 1, some symbol =>
      if restriction.exempts symbol then false
      else if symbol.carries restriction.marker then true
      else if symbol.kind.inheritsFromOwner then
        restriction.restrictedWithin table steps (symbol.owner.bind table.get?)
      else false

def isRestricted (restriction : Restriction) (table : SymbolTable) (symbol : Option Symbol) :
    Bool :=
  restriction.restrictedWithin table ownerLimit symbol

/-- Some usages are never reported: a name selected within an import, which names a declaration
without using it, and a call of the superclass constructor, which may be implicit. -/
def overlooks (usage : Usage) : Bool :=
  match usage.shape with
  | .memberSelect => usage.inImport
  | .identifier => usage.name == "super"

def matchesUsage (restriction : Restriction) (table : SymbolTable) (usage : Usage) : Bool :=
  if overlooks usage then false
  else
    match usage.symbol? table with
    | none => false
    | some symbol =>
        restriction.covers symbol.package && restriction.isRestricted table (some symbol)

end Restriction

end RestrictedApi
