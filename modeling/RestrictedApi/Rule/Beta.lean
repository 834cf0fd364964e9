import RestrictedApi.Config
import RestrictedApi.Rule

/-!
# The rule on beta APIs

The built-in rule: declarations under `com.google.common` that are annotated `@Beta` are not to be
used.  It exempts the cache interfaces, unless it is strict.
-/

namespace RestrictedApi
namespace BetaRule

def name : String := "beta-api"

def code : String := "UA001"

def info : RuleInfo where
  name := name
  code := code
  displayName := "BetaApi"
  summary := "@Beta APIs should not be used in library code as they are subject to change"
  explanation :=
    some "@Beta APIs should not be used in library code as they are subject to change."
  link := some "https://github.com/google/guava/wiki/PhilosophyExplained#beta-apis"
  category := "guava"

/-- The types that the rule exempts unless it is strict. -/
def exemptTypes : List String :=
  ["com.google.common.cache.Cache", "com.google.common.cache.LoadingCache"]

def strictRestriction : Restriction where
  baseNamespace := "com.google.common"
  marker := "com.google.common.annotations.Beta"

def restriction : Restriction :=
  strictRestriction.ignoreTypes exemptTypes

def configured (restriction : Restriction) (settings : RuleSettings) : ApiRule :=
  let rule : ApiRule := {
    info
    restriction := (restriction.ignoreTypes (settings.strings "extra_ignored_types"))
      |>.ignoreNamespaces (settings.strings "extra_ignored_packages") }
  settings.severity.elim rule rule.withSeverity

def recommended (settings : Option RuleSettings) : ApiRule :=
  configured restriction (settings.getD {})

def strict (settings : Option RuleSettings) : ApiRule :=
  configured strictRestriction (settings.getD {})

end BetaRule
end RestrictedApi
