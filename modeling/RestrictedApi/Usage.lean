import RestrictedApi.SourcePath
import RestrictedApi.Symbol

/-!
# Usages

A usage is a place in a source file that names a declaration, together with the declaration it was
resolved to and the warnings that the enclosing declarations silence there.
-/

namespace RestrictedApi

/-- A place in a source file: line and column count from one and the span is in bytes. -/
structure Location where
  file : SourcePath
  line : Nat
  column : Nat
  offset : Nat := 0
  length : Nat := 0
  deriving DecidableEq, Repr, Inhabited

namespace Location

protected def compare (a b : Location) : Ordering :=
  (compare a.file b.file).then <|
    (compare a.line b.line).then <|
      (compare a.column b.column).then <|
        (compare a.offset b.offset).then (compare a.length b.length)

instance : Ord Location := ⟨Location.compare⟩

end Location

inductive UsageShape where
  | identifier
  /-- A name selected from something else, after a dot or `::`. -/
  | memberSelect
  deriving DecidableEq, Repr, Inhabited

structure Usage where
  shape : UsageShape
  /-- The name as used; `super`, `this` and `new` stand for constructors. -/
  name : String
  location : Location
  inImport : Bool := false
  target : Option SymbolId := none
  /-- The warnings silenced at this place, outermost declaration first. -/
  suppressions : List String := []
  deriving DecidableEq, Repr, Inhabited

namespace Usage

/-- A usage is suppressed for a list of keys if one of them, or `all`, is silenced. -/
def isSuppressedFor (usage : Usage) (keys : List String) : Bool :=
  usage.suppressions.any fun warning => warning == "all" || keys.contains warning

def symbol? (usage : Usage) (table : SymbolTable) : Option Symbol :=
  usage.target.bind table.get?

end Usage

end RestrictedApi
