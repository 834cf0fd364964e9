import RestrictedApi.Tree
import Std.Data.TreeMap

/-!
# Written syntax trees

A tree is exchanged with the parser of the language as a text.  A named node is written
`(kind start end children)` and an unnamed one with square brackets; a child may be preceded by its
role and a colon; the end of a node that the parser supplied is followed by `?`.  Positions are byte
offsets into the source text.

Blanks separate the words of the text, and every node has three: what opens it, its start, and its
end with the brackets that close there.  So the words are read three at a time and the nodes that
are still open are kept on a stack.
-/

namespace RestrictedApi

namespace NodeKind

def names : List (String × NodeKind) :=
  [("package_declaration", .packageDeclaration),
    ("import_declaration", .importDeclaration),
    ("module_declaration", .moduleDeclaration),
    ("line_comment", .lineComment),
    ("block_comment", .blockComment),
    ("class_declaration", .classDeclaration),
    ("interface_declaration", .interfaceDeclaration),
    ("enum_declaration", .enumDeclaration),
    ("annotation_type_declaration", .annotationTypeDeclaration),
    ("record_declaration", .recordDeclaration),
    ("superclass", .superclassClause),
    ("super_interfaces", .superInterfaces),
    ("extends_interfaces", .extendsInterfaces),
    ("type_list", .typeList),
    ("class_body", .classBody),
    ("enum_body_declarations", .enumBodyDeclarations),
    ("field_declaration", .fieldDeclaration),
    ("constant_declaration", .constantDeclaration),
    ("method_declaration", .methodDeclaration),
    ("constructor_declaration", .constructorDeclaration),
    ("compact_constructor_declaration", .compactConstructorDeclaration),
    ("annotation_type_element_declaration", .annotationElementDeclaration),
    ("enum_constant", .enumConstant),
    ("modifiers", .modifiers),
    ("marker_annotation", .annotationMarker),
    ("annotation", .annotationCall),
    ("element_value_pair", .elementValuePair),
    ("formal_parameters", .formalParameters),
    ("formal_parameter", .formalParameter),
    ("spread_parameter", .spreadParameter),
    ("catch_formal_parameter", .catchFormalParameter),
    ("catch_type", .catchType),
    ("inferred_parameters", .inferredParameters),
    ("local_variable_declaration", .localVariableDeclaration),
    ("variable_declarator", .variableDeclarator),
    ("dimensions", .dimensions),
    ("underscore_pattern", .underscorePattern),
    ("block", .block),
    ("constructor_body", .constructorBody),
    ("static_initializer", .staticInitializer),
    ("switch_expression", .switchExpression),
    ("switch_label", .switchLabel),
    ("switch_block_statement_group", .switchGroup),
    ("switch_rule", .switchRule),
    ("for_statement", .forStatement),
    ("enhanced_for_statement", .enhancedForStatement),
    ("catch_clause", .catchClause),
    ("try_with_resources_statement", .tryWithResources),
    ("resource", .resource),
    ("labeled_statement", .labeledStatement),
    ("break_statement", .breakStatement),
    ("continue_statement", .continueStatement),
    ("explicit_constructor_invocation", .explicitConstructorInvocation),
    ("type_identifier", .typeIdentifier),
    ("scoped_type_identifier", .scopedTypeIdentifier),
    ("generic_type", .genericType),
    ("annotated_type", .annotatedType),
    ("type_parameter", .typeParameter),
    ("type_arguments", .typeArguments),
    ("identifier", .identifier),
    ("scoped_identifier", .scopedIdentifier),
    ("asterisk", .asterisk),
    ("string_literal", .stringLiteral),
    ("field_access", .fieldAccess),
    ("method_invocation", .methodInvocation),
    ("method_reference", .methodReference),
    ("object_creation_expression", .objectCreation),
    ("binary_expression", .binaryExpression),
    ("cast_expression", .castExpression),
    ("parenthesized_expression", .parenthesizedExpression),
    ("ternary_expression", .ternaryExpression),
    ("assignment_expression", .assignmentExpression),
    ("instanceof_expression", .instanceofExpression),
    ("lambda_expression", .lambdaExpression),
    ("type_pattern", .typePattern),
    ("record_pattern_component", .recordPatternComponent),
    ("this", .thisKeyword),
    ("super", .superKeyword),
    ("new", .newKeyword),
    ("static", .staticKeyword),
    ("ERROR", .error)]

def byName : Std.TreeMap String NodeKind :=
  Std.TreeMap.ofList names

def ofName (name : String) : NodeKind :=
  byName[name]?.getD .other

end NodeKind

namespace Role

def names : List (String × Role) :=
  [("name", .name),
    ("scope", .scope),
    ("type", .type),
    ("value", .value),
    ("body", .body),
    ("declarator", .declarator),
    ("parameters", .parameters),
    ("type_parameters", .typeParameters),
    ("superclass", .superclass),
    ("object", .object),
    ("field", .field),
    ("arguments", .arguments),
    ("type_arguments", .typeArguments),
    ("constructor", .constructor),
    ("left", .left),
    ("right", .right),
    ("condition", .condition),
    ("consequence", .consequence),
    ("key", .key)]

def byName : Std.TreeMap String Role :=
  Std.TreeMap.ofList names

def ofName? (name : String) : Option Role :=
  byName[name]?

end Role

structure SourceText where
  bytes : ByteArray
  /-- Line and column, counted from one, of every byte and of the end. -/
  positions : Array (Nat × Nat)

namespace SourceText

def advance (position : Nat × Nat) (byte : UInt8) : Nat × Nat :=
  if byte = 10 then (position.1 + 1, 1) else (position.1, position.2 + 1)

def ofString (text : String) : SourceText :=
  let bytes := text.toUTF8
  let step (found : Array (Nat × Nat) × (Nat × Nat)) (byte : UInt8) :=
    let next := advance found.2 byte
    (found.1.push next, next)
  { bytes, positions := (bytes.data.foldl step (#[(1, 1)], (1, 1))).1 }

def position (source : SourceText) (offset : Nat) : Nat × Nat :=
  source.positions[offset]?.getD (1, 1)

def slice (source : SourceText) (start stop : Nat) : String :=
  (String.fromUTF8? (source.bytes.extract start stop)).getD ""

end SourceText

namespace Node

/-- A node without its children, which are collected in reverse while it is open. -/
structure Opened where
  node : Node
  collected : List Node

structure Reading where
  /-- The open nodes, innermost first. -/
  opened : List Opened := []
  root : Option Node := none

namespace Reading

def close (reading : Reading) : Option Reading :=
  match reading.opened with
  | [] => none
  | [last] =>
      some { opened := [], root := some { last.node with children := last.collected.reverse } }
  | last :: parent :: rest =>
      let done := { last.node with children := last.collected.reverse }
      some { reading with opened := { parent with collected := done :: parent.collected } :: rest }

def closeAll (reading : Reading) : List Char → Option Reading
  | [] => some reading
  | _ :: brackets => reading.close.bind fun next => next.closeAll brackets

end Reading

/-- The role, if any, whether the node is named, and its kind. -/
def openingWord? (word : List Char) : Option (Option Role × Bool × NodeKind) :=
  let roleName := word.takeWhile fun c => c.isAlpha || c = '_'
  let rest :=
    match word.dropWhile fun c => c.isAlpha || c = '_' with
    | ':' :: rest => rest
    | rest => rest
  let role := Role.ofName? (String.ofList roleName)
  match rest with
  | '(' :: kind => some (role, true, .ofName (String.ofList kind))
  | '[' :: kind => some (role, false, .ofName (String.ofList kind))
  | _ => none

def number? (digits : List Char) : Option Nat :=
  if digits ≠ [] ∧ digits.all (·.isDigit) then
    some (digits.foldl (fun n c => n * 10 + (c.toNat - '0'.toNat)) 0)
  else none

def closingWord? (word : List Char) : Option (Nat × List Char) :=
  let brackets :=
    match word.dropWhile (·.isDigit) with
    | '?' :: rest => rest
    | rest => rest
  (number? (word.takeWhile (·.isDigit))).map fun stop => (stop, brackets)

/-- Read the words of a tree, three for each node. -/
def readWords (source : SourceText) : List (List Char) → Reading → Option Reading
  | [], reading => some reading
  | opening :: start :: closing :: rest, reading => do
      let (role, named, kind) ← openingWord? opening
      let start ← number? start
      let (stop, brackets) ← closingWord? closing
      let (line, column) := source.position start
      let node : Node := {
        kind, named, role, line, column, offset := start, length := stop - start
        text := source.slice start stop, children := [] }
      let reading ← { reading with opened := ⟨node, []⟩ :: reading.opened }.closeAll brackets
      readWords source rest reading
  | _, _ => none

def read? (text tree : String) : Option Node := do
  let words := Text.splitChars ' ' tree.toList
  let reading ← readWords (.ofString text) words {}
  if reading.opened.isEmpty then reading.root else none

/-- A written tree shows an error of the parser: a stretch that it could not read, or a node that it
had to add. -/
def showsError (tree : String) : Bool :=
  Text.includes tree "(ERROR " || Text.includes tree "?"

end Node

end RestrictedApi
