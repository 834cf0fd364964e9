import RestrictedApi.Rule.Declared

/-!
# Presets and rule sets

A preset chooses how strict the built-in rules are.  The rules of a run are those of its preset
followed by the declared ones.
-/

namespace RestrictedApi

inductive Preset where
  | recommended
  | strict
  deriving DecidableEq, Repr, Inhabited

namespace Preset

def all : List Preset := [.recommended, .strict]

def name : Preset → String
  | .recommended => "recommended"
  | .strict => "strict"

def ofName? (name : String) : Option Preset :=
  all.find? fun preset => preset.name = name

def description : Preset → String
  | .recommended => "UA001 with the Cache/LoadingCache exemption"
  | .strict => "UA001 with no exempt types"

def rules : Preset → Option RuleSettings → List ApiRule
  | .recommended, settings => [BetaRule.recommended settings]
  | .strict, settings => [BetaRule.strict settings]

theorem ofName?_name (preset : Preset) : ofName? preset.name = some preset := by
  cases preset <;> rfl

end Preset

inductive RulesError where
  /-- The document is not TOML, or a declaration has a value of the wrong type. -/
  | malformed
  | declaration (error : DeclarationError)
  | unknownPreset (name : String)
  deriving DecidableEq, Repr

namespace RulesError

/-- The message of an error.  What exactly is wrong with a malformed document is not part of it. -/
def message : RulesError → String
  | .malformed => "TOML parse error:"
  | .declaration error => error.message
  | .unknownPreset name => "unknown preset `" ++ name ++ "` (expected `recommended` or `strict`)"

end RulesError

def declaredRules (document : String) : Except RulesError (List ApiRule) :=
  match (Toml.parse? document).bind RuleDeclaration.listOfToml? with
  | none => .error .malformed
  | some declarations => (RuleDeclaration.loadAll declarations).mapError .declaration

namespace Config

def presetOf (config : Config) : Except RulesError Preset :=
  match config.preset with
  | none => .ok .recommended
  | some name =>
      match Preset.ofName? name with
      | some preset => .ok preset
      | none => .error (.unknownPreset name)

def ruleSet (config : Config) (document : String) : Except RulesError (List ApiRule) := do
  let preset ← config.presetOf
  let declared ← declaredRules document
  return preset.rules config.rules[BetaRule.name]? ++ declared

end Config

end RestrictedApi
