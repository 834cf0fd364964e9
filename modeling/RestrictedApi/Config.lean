import RestrictedApi.FileSystem
import RestrictedApi.Severity
import RestrictedApi.Text.Blank
import RestrictedApi.Toml.Document
import Std.Data.TreeMap

/-!
# Configuration

The settings of a run, as read from a TOML document.  Missing settings have defaults and unknown
keys are ignored.  A document can fail in two ways: it is not TOML, or has a value of the wrong
type; or it is well-formed but has a value that makes no sense.
-/

namespace RestrictedApi

structure AnalyzerSettings where
  root : SourcePath := ⟨"."⟩
  exclude : List String := ["**/build/**", "**/target/**"]
  respectGitignore : Bool := true
  failOnParseError : Bool := false
  deriving DecidableEq, Repr, Inhabited

structure RuleSettings where
  enabled : Option Bool := none
  severity : Option Severity := none
  options : List (String × Toml.Value) := []
  deriving Inhabited

namespace RuleSettings

def strings (settings : RuleSettings) (key : String) : List String :=
  (((settings.options.lookup key).bind Toml.Value.array?).getD []).filterMap Toml.Value.string?

end RuleSettings

structure Config where
  preset : Option String := none
  analyzer : AnalyzerSettings := {}
  rules : Std.TreeMap String RuleSettings := ∅
  deriving Inhabited

namespace Config

def isRuleEnabled (config : Config) (name : String) : Bool :=
  (config.rules[name]?.bind (·.enabled)).getD true

def ruleSeverity? (config : Config) (name : String) : Option Severity :=
  config.rules[name]?.bind (·.severity)

end Config

inductive ConfigProblem where
  | emptyPreset
  | emptyPattern
  | notStrings (rule key : String)
  deriving DecidableEq, Repr

namespace ConfigProblem

def message : ConfigProblem → String
  | .emptyPreset => "preset must not be empty"
  | .emptyPattern => "analyzer.exclude contains an empty pattern"
  | .notStrings rule key => s!"rules.{rule}.{key} must be an array of strings"

end ConfigProblem

inductive ConfigError where
  | unreadable (path : SourcePath) (reason : FileError)
  | malformed
  | invalid (problem : ConfigProblem)
  deriving DecidableEq, Repr

namespace ConfigError

/-- The message of an error.  What exactly is wrong with a malformed text is not part of it. -/
def message : ConfigError → String
  | .unreadable path reason => s!"Failed to read config file {path.text}: {reason.message}"
  | .malformed => "Failed to parse config:"
  | .invalid problem => "Invalid config: " ++ problem.message

end ConfigError

/-! ## Reading -/

namespace Toml

/-- The key under which a date stands when settings are expected in its place, and the key of a
table that stands for a date. -/
def dateKey : String := "$__toml_private_datetime"

namespace Value

def entries? : Value → Option (List (String × Value))
  | .table entries => some entries
  | .dateTime value => some [(dateKey, .string value.text)]
  | _ => none

mutual

/-- A value of an option as it is meant: a table that starts with the key of dates stands for the
date that it spells out, and must hold nothing else. -/
def meant? : Value → Option Value
  | .table entries =>
      match entries with
      | [] => some (.table [])
      | (key, value) :: rest =>
          if key = dateKey then
            match value, rest with
            | .string text, [] => (DateTime.ofText? text).map .dateTime
            | _, _ => none
          else do
            let value ← value.meant?
            let rest ← meantEntries? rest
            return .table ((key, value) :: rest)
  | .array items => (meantItems? items).map .array
  | value => some value

def meantItems? : List Value → Option (List Value)
  | [] => some []
  | item :: rest => do
      let item ← item.meant?
      let rest ← meantItems? rest
      return item :: rest

def meantEntries? : List (String × Value) → Option (List (String × Value))
  | [] => some []
  | (key, value) :: rest => do
      let value ← value.meant?
      let rest ← meantEntries? rest
      return (key, value) :: rest

end

/-- The values of a record's fields, in the order of `names`.  A record can also be written as an
array of its fields in that order, of which at least `required` must be there. -/
def record? (names : List String) (required : Nat) (value : Value) :
    Option (List (Option Value)) :=
  match value with
  | .array items =>
      if required ≤ items.length then
        some ((List.range names.length).map fun i => items[i]?)
      else none
  | _ => value.entries?.map fun entries => names.map fun name => entries.lookup name

def optional? {α : Type} (read : Value → Option α) : Option Value → Option (Option α)
  | none => some none
  | some value => (read value).map some

def default? {α : Type} (read : Value → Option α) (default : α) : Option Value → Option α
  | none => some default
  | some value => read value

end Value
end Toml

namespace Severity

/-- A severity is its word, or a table that holds nothing but the word with an empty array or
table. -/
def ofToml? : Toml.Value → Option Severity
  | .string word => ofWord? word
  | .table [(word, .table [])] => ofWord? word
  | .table [(word, .array [])] => ofWord? word
  | _ => none

end Severity

namespace AnalyzerSettings

def ofToml? (value : Toml.Value) : Option AnalyzerSettings := do
  let names := ["root", "exclude", "respect_gitignore", "fail_on_parse_error"]
  let defaults : AnalyzerSettings := {}
  match ← value.record? names 0 with
  | [root, exclude, respectGitignore, failOnParseError] =>
      return {
        root := ⟨← Toml.Value.default? Toml.Value.string? defaults.root.text root⟩
        exclude := ← Toml.Value.default? Toml.Value.strings? defaults.exclude exclude
        respectGitignore :=
          ← Toml.Value.default? Toml.Value.boolean? defaults.respectGitignore respectGitignore
        failOnParseError :=
          ← Toml.Value.default? Toml.Value.boolean? defaults.failOnParseError failOnParseError }
  | _ => none

end AnalyzerSettings

namespace RuleSettings

def ofToml? (value : Toml.Value) : Option RuleSettings := do
  let entries ← value.entries?
  return {
    enabled := ← Toml.Value.optional? Toml.Value.boolean? (entries.lookup "enabled")
    severity := ← Toml.Value.optional? Severity.ofToml? (entries.lookup "severity")
    options := ← Toml.Value.meantEntries? <|
      entries.filter fun entry => entry.1 ≠ "enabled" ∧ entry.1 ≠ "severity" }

def badOption? (settings : RuleSettings) : Option String :=
  let bad := settings.options.find? fun (key, value) =>
    Text.begins key "extra_ignored_" && value.strings?.isNone
  bad.map (·.1)

end RuleSettings

namespace Config

def rulesOfToml? : Toml.Value → Option (Std.TreeMap String RuleSettings)
  | .table entries => do
      let rules ← entries.mapM fun (name, value) =>
        (RuleSettings.ofToml? value).map fun settings => (name, settings)
      return Std.TreeMap.ofList rules
  | _ => none

def ofToml? (entries : List (String × Toml.Value)) : Option Config := do
  return {
    preset := ← Toml.Value.optional? Toml.Value.string? (entries.lookup "preset")
    analyzer := ← Toml.Value.default? AnalyzerSettings.ofToml? {} (entries.lookup "analyzer")
    rules := ← Toml.Value.default? rulesOfToml? ∅ (entries.lookup "rules") }

def problem? (config : Config) : Option ConfigProblem :=
  if config.preset.any fun preset => Text.trim preset = "" then some .emptyPreset
  else if config.analyzer.exclude.any fun pattern => Text.trim pattern = "" then some .emptyPattern
  else
    config.rules.toList.findSome? fun (name, settings) =>
      settings.badOption?.map (ConfigProblem.notStrings name)

def parse (document : String) : Except ConfigError Config :=
  match (Toml.parse? document).bind ofToml? with
  | none => .error .malformed
  | some config =>
      match config.problem? with
      | some problem => .error (.invalid problem)
      | none => .ok config

end Config

end RestrictedApi
