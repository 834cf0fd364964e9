import RestrictedApi.Declarations.Linking
import RestrictedApi.Extraction

/-!
# Programs

A program is a list of units with their declarations collected and linked.  Usages are extracted
unit by unit; each extraction appends the symbols of the locals it meets to the table, so it yields
a new program.
-/

namespace RestrictedApi

structure SourceUnit where
  path : SourcePath
  root : Node
  hasErrors : Bool := false
  deriving Inhabited

structure NestingTooDeep where
  path : SourcePath
  line : Nat
  deriving DecidableEq, Repr, Inhabited

namespace NestingTooDeep

def message (error : NestingTooDeep) : String :=
  s!"{error.path.text}:{error.line}: syntax nests deeper than {nestingLimit} levels"

end NestingTooDeep

structure Program where
  units : List SourceUnit
  table : SymbolTable
  decls : Declarations
  deriving Inhabited

namespace Program

def ofUnits (units : List SourceUnit) : Program :=
  let linked := (Collected.ofUnits (units.map (·.root))).link
  { units, table := linked.table, decls := linked.decls }

def pathsWithErrors (program : Program) : List SourcePath :=
  (program.units.filter (·.hasErrors)).map (·.path)

def walkedUnit (program : Program) (number : Nat) (source : SourceUnit) : WalkedUnit where
  decls := program.decls
  unit := number
  package := (program.decls.units[number]?.map (·.package)).getD ""
  file := source.path

def walk (program : Program) (number : Nat) (source : SourceUnit) : Walk :=
  (program.walkedUnit number source).walk program.table source.root

/-- The usages of a unit, and the program with the symbols of its locals.  A unit that does not
exist has no usages. -/
def usages (program : Program) (number : Nat) :
    Except NestingTooDeep (List Usage) × Program :=
  match program.units[number]? with
  | none => (.ok [], program)
  | some source =>
      let walk := program.walk number source
      let result :=
        match walk.tooDeep with
        | some line => .error { path := source.path, line }
        | none => .ok (walk.references.toList.map (·.usage))
      (result, { program with table := walk.table })

end Program
end RestrictedApi
