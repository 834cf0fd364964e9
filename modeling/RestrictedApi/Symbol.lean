/-!
# Symbols

A symbol is one declaration of a program: a package, a type, a member, a type parameter or a local.
Symbols live in a table that only grows, and refer to the declaration that encloses them by its
number in the table.  A number need not name a symbol: looking it up may fail.
-/

namespace RestrictedApi

abbrev SymbolId := Nat

inductive SymbolKind where
  | package
  | classType
  | interfaceType
  | enumType
  | annotationType
  | field
  | method
  | constructor
  | enumConstant
  | typeParameter
  | localVariable
  | parameter
  | exceptionParameter
  deriving DecidableEq, Repr, Inhabited

namespace SymbolKind

def all : List SymbolKind :=
  [.package, .classType, .interfaceType, .enumType, .annotationType, .field, .method, .constructor,
    .enumConstant, .typeParameter, .localVariable, .parameter, .exceptionParameter]

def label : SymbolKind → String
  | .package => "Package"
  | .classType => "Class"
  | .interfaceType => "Interface"
  | .enumType => "Enum"
  | .annotationType => "AnnotationType"
  | .field => "Field"
  | .method => "Method"
  | .constructor => "Constructor"
  | .enumConstant => "EnumConstant"
  | .typeParameter => "TypeParameter"
  | .localVariable => "LocalVariable"
  | .parameter => "Parameter"
  | .exceptionParameter => "ExceptionParameter"

def ofLabel? (label : String) : Option SymbolKind :=
  all.find? fun kind => kind.label == label

def isType : SymbolKind → Bool
  | .classType | .interfaceType | .enumType | .annotationType => true
  | _ => false

/-- Members and nested types take on the restriction of the declaration that encloses them.
Type parameters, locals and packages never do. -/
def inheritsFromOwner : SymbolKind → Bool
  | .field | .method | .constructor | .enumConstant => true
  | kind => kind.isType

end SymbolKind

structure Symbol where
  /-- The simple name; constructors are all named `<init>`. -/
  name : String
  /-- The dotted name of a package or type; the simple name of anything else. -/
  qualifiedName : String
  /-- The dotted name of the declaring package, empty for the unnamed one. -/
  package : String
  kind : SymbolKind
  owner : Option SymbolId := none
  annotations : List String := []
  deriving DecidableEq, Repr, Inhabited

namespace Symbol

def carries (symbol : Symbol) (marker : String) : Bool :=
  symbol.annotations.contains marker

def annotate (symbol : Symbol) (annotations : List String) : Symbol :=
  { symbol with annotations := symbol.annotations ++ annotations }

end Symbol

structure SymbolTable where
  symbols : Array Symbol := #[]
  deriving DecidableEq, Repr, Inhabited

namespace SymbolTable

def size (table : SymbolTable) : Nat :=
  table.symbols.size

def get? (table : SymbolTable) (id : SymbolId) : Option Symbol :=
  table.symbols[id]?

/-- Append a symbol; its number is the size of the table before. -/
def insert (table : SymbolTable) (symbol : Symbol) : SymbolTable :=
  { symbols := table.symbols.push symbol }

def modify (table : SymbolTable) (id : SymbolId) (change : Symbol → Symbol) : SymbolTable :=
  { symbols := table.symbols.modify id change }

def toList (table : SymbolTable) : List Symbol :=
  table.symbols.toList

def since (table : SymbolTable) (start : Nat) : List Symbol :=
  table.toList.drop start

@[simp] theorem size_insert (table : SymbolTable) (symbol : Symbol) :
    (table.insert symbol).size = table.size + 1 := by
  simp [size, insert]

@[simp] theorem toList_insert (table : SymbolTable) (symbol : Symbol) :
    (table.insert symbol).toList = table.toList ++ [symbol] := by
  simp [toList, insert]

theorem get?_insert (table : SymbolTable) (symbol : Symbol) (id : SymbolId) :
    (table.insert symbol).get? id =
      if id = table.size then some symbol else table.get? id := by
  unfold get? insert size
  exact Array.getElem?_push

end SymbolTable

end RestrictedApi
