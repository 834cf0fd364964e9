import RestrictedApi.Report
import RestrictedApi.Restriction

/-!
# Rules

A rule judges usages one at a time and describes itself.  Every rule of the program is a
restriction with a description, an `ApiRule`; a `UsageRule` may judge by any other test.
-/

namespace RestrictedApi

structure RuleInfo where
  name : String
  code : String
  summary : String := ""
  /-- The name used in messages and in `@SuppressWarnings`. -/
  displayName : String := name
  explanation : Option String := none
  link : Option String := none
  severity : Severity := .error
  category : String := "general"
  deriving DecidableEq, Repr, Inhabited

namespace RuleInfo

/-- The words that silence a rule when an enclosing declaration lists them. -/
def suppressionKeys (info : RuleInfo) : List String :=
  [info.name, info.code, info.displayName]

def violation (info : RuleInfo) (usage : Usage) : Violation where
  code := info.code
  rule := info.name
  severity := info.severity
  location := usage.location
  message := s!"[{info.displayName}] {info.summary}"
  suggestion := info.explanation
  link := info.link

end RuleInfo

structure UsageRule where
  info : RuleInfo
  judge : SymbolTable → Usage → Bool

namespace UsageRule

def reports (rule : UsageRule) (table : SymbolTable) (usage : Usage) : Bool :=
  !usage.isSuppressedFor rule.info.suppressionKeys && rule.judge table usage

def check (rule : UsageRule) (table : SymbolTable) (usages : List Usage) : List Violation :=
  (usages.filter (rule.reports table)).map rule.info.violation

/-- A rule that reports the usages of declarations that carry an annotation themselves. -/
def annotated (name code marker : String) : UsageRule where
  info := { name, code }
  judge := fun table usage => (usage.symbol? table).any (·.carries marker)

end UsageRule

structure ApiRule where
  info : RuleInfo
  restriction : Restriction

namespace ApiRule

def withSeverity (rule : ApiRule) (severity : Severity) : ApiRule :=
  { rule with info.severity := severity }

def toUsageRule (rule : ApiRule) : UsageRule where
  info := rule.info
  judge := rule.restriction.matchesUsage

end ApiRule

end RestrictedApi
