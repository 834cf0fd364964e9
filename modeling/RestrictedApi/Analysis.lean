import RestrictedApi.Config
import RestrictedApi.Glob
import RestrictedApi.Program
import RestrictedApi.Rule

/-!
# Analysis

An analyzer applies its rules to all units of a program and collects what they find in a sorted
report.  The configuration can switch rules off and replace their severities.
-/

namespace RestrictedApi

inductive AnalysisError where
  | unreadable (path : SourcePath) (reason : FileError)
  /-- The parser met errors in a file, and that is to count as a failure. -/
  | syntaxErrors (path : SourcePath)
  | pattern (error : GlobError)
  | nesting (error : NestingTooDeep)
  | walk
  | config (error : ConfigError)
  deriving DecidableEq, Repr

namespace AnalysisError

/-- The message of an error.  Why files cannot be listed is not part of it. -/
def message : AnalysisError → String
  | .unreadable path reason => s!"Failed to read {path.text}: {reason.message}"
  | .syntaxErrors path => s!"Parse error in {path.text}: source contains syntax errors"
  | .pattern error => "Invalid glob pattern: " ++ error.message
  | .nesting error => error.message
  | .walk => "Failed to walk source tree:"
  | .config error => "Configuration error: " ++ error.message

end AnalysisError

structure AnalysisRequest where
  /-- The directory to analyze, if not that of the configuration. -/
  root : Option SourcePath := none
  rules : List UsageRule := []
  exclude : List String := []
  config : Config := {}
  failOnParseError : Bool := false

structure Analyzer where
  root : SourcePath
  rules : List UsageRule
  exclude : List Glob
  config : Config
  failOnParseError : Bool

namespace AnalysisRequest

def analyzer (request : AnalysisRequest) (current : SourcePath) :
    Except AnalysisError Analyzer := do
  let patterns := request.exclude ++ request.config.analyzer.exclude
  let exclude ← (patterns.mapM Glob.parse).mapError .pattern
  return {
    root := current.join (request.root.getD request.config.analyzer.root)
    rules := request.rules
    exclude
    config := request.config
    failOnParseError := request.failOnParseError || request.config.analyzer.failOnParseError }

end AnalysisRequest

structure ExtractedUnit where
  usages : List Usage
  table : SymbolTable
  deriving Inhabited

namespace Program

def extract (program : Program) : List Nat → Except NestingTooDeep (List ExtractedUnit)
  | [] => .ok []
  | number :: rest =>
      match program.usages number with
      | (.error error, _) => .error error
      | (.ok usages, program) => do
          return { usages, table := program.table } :: (← program.extract rest)

end Program

namespace Analyzer

def enabledRules (analyzer : Analyzer) : List UsageRule :=
  analyzer.rules.filter fun rule => analyzer.config.isRuleEnabled rule.info.name

def findings (analyzer : Analyzer) (unit : ExtractedUnit) (rule : UsageRule) : List Violation :=
  let found := rule.check unit.table unit.usages
  match analyzer.config.ruleSeverity? rule.info.name with
  | none => found
  | some severity => found.map fun violation => { violation with severity }

def report (analyzer : Analyzer) (units : List ExtractedUnit) : Report :=
  let report : Report := {
    violations := units.flatMap fun unit => analyzer.enabledRules.flatMap (analyzer.findings unit)
    filesChecked := units.length
    usagesChecked := (units.flatMap fun unit => unit.usages).length }
  report.sort

def run (analyzer : Analyzer) (units : List SourceUnit) : Except AnalysisError Report :=
  let program := Program.ofUnits units
  match program.pathsWithErrors with
  | path :: _ =>
      if analyzer.failOnParseError then .error (.syntaxErrors path) else finish program
  | [] => finish program
where
  finish (program : Program) : Except AnalysisError Report := do
    let extracted ← (program.extract (List.range program.units.length)).mapError .nesting
    return analyzer.report extracted

end Analyzer

end RestrictedApi
