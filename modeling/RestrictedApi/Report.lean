import RestrictedApi.Severity
import RestrictedApi.Usage

/-!
# Reports

A report collects the violations that a run has found, with the number of files and usages it
looked at.  Sorting is stable: violations at one location keep the order of the rules that found
them.
-/

namespace RestrictedApi

structure Violation where
  code : String
  rule : String
  severity : Severity
  location : Location
  message : String
  suggestion : Option String := none
  link : Option String := none
  deriving DecidableEq, Repr, Inhabited

namespace Violation

def line (violation : Violation) : String :=
  s!"{violation.location.file.text}:{violation.location.line}:{violation.location.column}: " ++
    s!"{violation.severity.word} [{violation.code}] {violation.message}"

end Violation

structure Diagnostic where
  message : String
  help : Option String
  label : String
  offset : Nat
  length : Nat
  deriving DecidableEq, Repr

namespace Violation

/-- Help is the suggestion, or else a pointer to the link. -/
def diagnostic (violation : Violation) : Diagnostic where
  message := s!"[{violation.code}] {violation.message}"
  help := violation.suggestion <|> violation.link.map ("see " ++ ·)
  label := violation.rule
  offset := violation.location.offset
  length := violation.location.length

end Violation

structure Report where
  violations : List Violation := []
  filesChecked : Nat := 0
  usagesChecked : Nat := 0
  deriving DecidableEq, Repr, Inhabited

namespace Report

def count (report : Report) (severity : Severity) : Nat :=
  report.violations.countP fun violation => violation.severity == severity

def hasErrors (report : Report) : Bool :=
  report.violations.any fun violation => violation.severity == .error

def add (report : Report) (violation : Violation) : Report :=
  { report with violations := report.violations ++ [violation] }

def precedes (a b : Violation) : Bool :=
  (compare a.location b.location).isLE

def sort (report : Report) : Report :=
  { report with violations := report.violations.mergeSort precedes }

/-- The lines of the violations in a file, sorted, one entry for each violation. -/
def linesIn (report : Report) (file : SourcePath) : List Nat :=
  let found := report.violations.filter fun violation => violation.location.file.same file
  (found.map fun violation => violation.location.line).mergeSort (· ≤ ·)

end Report

end RestrictedApi
