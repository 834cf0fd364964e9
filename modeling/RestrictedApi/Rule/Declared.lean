import RestrictedApi.Rule.Beta
import RestrictedApi.Text.Letter

/-!
# Declared rules

A configuration can declare rules of its own, each in a table `[[restricted]]`.  Names and codes
must be unique, also among the built-in rules.  A declaration without a code gets the next free one.
-/

namespace RestrictedApi

structure RuleDeclaration where
  name : String
  code : Option String := none
  baseNamespace : String
  marker : String
  ignoredPackages : List String := []
  ignoredTypes : List String := []
  severity : Option Severity := none
  summary : Option String := none
  explanation : Option String := none
  link : Option String := none
  category : Option String := none
  displayName : Option String := none
  deriving DecidableEq, Repr, Inhabited

inductive DeclarationProblem where
  | emptyField (field : String)
  | duplicateName (name : String)
  | duplicateCode (code : String)
  | invalidNamespace (namespaceName : String)
  | unqualifiedMarker (marker : String)
  deriving DecidableEq, Repr

/-- A problem with the declaration at a position, counted from 0. -/
structure DeclarationError where
  index : Nat
  problem : DeclarationProblem
  deriving DecidableEq, Repr

namespace DeclarationError

def message (error : DeclarationError) : String :=
  let place := s!"restricted[{error.index}]"
  match error.problem with
  | .emptyField field => s!"{place}.{field} must not be empty"
  | .duplicateName name => place ++ ": rule name `" ++ name ++ "` is already defined"
  | .duplicateCode code => place ++ ": rule code `" ++ code ++ "` is already used"
  | .invalidNamespace name =>
      place ++ ".base_namespace `" ++ name ++ "` is not a package name"
  | .unqualifiedMarker marker =>
      place ++ ".annotation `" ++ marker ++ "` must be a fully qualified name"

end DeclarationError

namespace RuleDeclaration

/-! ## Reading -/

def ofToml? (value : Toml.Value) : Option RuleDeclaration := do
  let names := ["name", "code", "base_namespace", "annotation", "ignored_packages",
    "ignored_types", "severity", "summary", "explanation", "link", "category", "display_name"]
  let optional := Toml.Value.optional? Toml.Value.string?
  match ← value.record? names 4 with
  | [name, code, baseNamespace, marker, ignoredPackages, ignoredTypes, severity, summary,
      explanation, link, category, displayName] =>
      return {
        name := ← name.bind Toml.Value.string?
        code := ← optional code
        baseNamespace := ← baseNamespace.bind Toml.Value.string?
        marker := ← marker.bind Toml.Value.string?
        ignoredPackages := ← Toml.Value.default? Toml.Value.strings? [] ignoredPackages
        ignoredTypes := ← Toml.Value.default? Toml.Value.strings? [] ignoredTypes
        severity := ← Toml.Value.optional? Severity.ofToml? severity
        summary := ← optional summary
        explanation := ← optional explanation
        link := ← optional link
        category := ← optional category
        displayName := ← optional displayName }
  | _ => none

def listOfToml? (entries : List (String × Toml.Value)) : Option (List RuleDeclaration) :=
  match entries.lookup "restricted" with
  | none => some []
  | some value => value.array?.bind fun items => items.mapM ofToml?

/-! ## Checking -/

/-- A name is qualified if it has at least two segments and none of them is empty. -/
def isQualified (name : String) : Bool :=
  let segments := Text.segments '.' name
  2 ≤ segments.length && segments.all fun segment => segment ≠ ""

def problem? (declaration : RuleDeclaration) : Option DeclarationProblem :=
  let fields := [("name", declaration.name), ("base_namespace", declaration.baseNamespace),
    ("annotation", declaration.marker)]
  match fields.find? fun field => Text.trim field.2 = "" with
  | some (field, _) => some (.emptyField field)
  | none =>
      if !(Text.segments '.' declaration.baseNamespace).all Text.isIdentifier then
        some (.invalidNamespace declaration.baseNamespace)
      else if !isQualified declaration.marker then some (.unqualifiedMarker declaration.marker)
      else none

/-! ## The rule of a declaration -/

def defaultSummary (declaration : RuleDeclaration) : String :=
  let simple := (Text.segments '.' declaration.marker).getLastD declaration.marker
  s!"@{simple} APIs under {declaration.baseNamespace} are subject to change"

def toRule (declaration : RuleDeclaration) (code : String) : ApiRule where
  info := {
    name := declaration.name
    code
    summary := declaration.summary.getD declaration.defaultSummary
    displayName := declaration.displayName.getD declaration.name
    explanation := declaration.explanation
    link := declaration.link
    severity := declaration.severity.getD .error
    category := declaration.category.getD "custom" }
  restriction :=
    let base : Restriction := {
      baseNamespace := declaration.baseNamespace, marker := declaration.marker }
    (base.ignoreNamespaces declaration.ignoredPackages).ignoreTypes declaration.ignoredTypes

end RuleDeclaration

/-! ## Codes -/

def generatedCode (number : Nat) : String :=
  s!"UA{number}"

def firstGeneratedCode : Nat := 100

/-- The first number from `number` on, among `attempts` many, whose code is not taken.  One of any
`taken.length + 1` consecutive numbers is free. -/
def freeNumber (taken : List String) (number : Nat) : (attempts : Nat) → Nat
  | 0 => number
  | attempts + 1 =>
      if taken.contains (generatedCode number) then freeNumber taken (number + 1) attempts
      else number

/-! ## Loading -/

namespace RuleDeclaration

structure Taken where
  names : List String := [BetaRule.name]
  codes : List String := [BetaRule.code]
  number : Nat := firstGeneratedCode
  deriving DecidableEq, Repr, Inhabited

/-- The code of a declaration and the number to go on with.  A generated code differs from all codes
taken so far and from `explicit`, the codes that are written in the document. -/
def assignCode (declaration : RuleDeclaration) (explicit : List String) (taken : Taken) :
    String × Nat :=
  match declaration.code with
  | some code => (code, taken.number)
  | none =>
      let all := explicit ++ taken.codes
      let number := freeNumber all taken.number (all.length + 1)
      (generatedCode number, number + 1)

def load (declaration : RuleDeclaration) (explicit : List String) (taken : Taken) :
    Except DeclarationProblem (ApiRule × Taken) :=
  match declaration.problem? with
  | some problem => .error problem
  | none =>
      if taken.names.contains declaration.name then .error (.duplicateName declaration.name)
      else
        let (code, number) := declaration.assignCode explicit taken
        if taken.codes.contains code then .error (.duplicateCode code)
        else
          .ok (declaration.toRule code, {
            names := declaration.name :: taken.names
            codes := code :: taken.codes
            number })

def loadFrom (explicit : List String) :
    (index : Nat) → Taken → List RuleDeclaration → Except DeclarationError (List ApiRule)
  | _, _, [] => .ok []
  | index, taken, declaration :: rest =>
      match declaration.load explicit taken with
      | .error problem => .error ⟨index, problem⟩
      | .ok (rule, taken) => do
          let rules ← loadFrom explicit (index + 1) taken rest
          return rule :: rules

def loadAll (declarations : List RuleDeclaration) : Except DeclarationError (List ApiRule) :=
  loadFrom (declarations.filterMap (·.code)) 0 {} declarations

end RuleDeclaration

end RestrictedApi
