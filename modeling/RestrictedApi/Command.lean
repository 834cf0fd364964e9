import RestrictedApi.Analysis.Discovery
import RestrictedApi.Config.Source
import RestrictedApi.Report.Rendering
import RestrictedApi.Rule.Preset
import RestrictedApi.Session
import RestrictedApi.Text.Quoted

/-!
# Commands

What the program can be asked to do: check sources, list the rules, and write a first configuration
file.
-/

namespace RestrictedApi

structure ParsedSource where
  root : Node
  hasErrors : Bool := false
  deriving Inhabited

structure Environment where
  current : SourcePath
  globalDirectory : Option SourcePath := none
  parse : String → ParsedSource

/-! ## Causes of failures -/

def ConfigError.causes : ConfigError → List String
  | .unreadable path reason => [(ConfigError.unreadable path reason).message, reason.message]
  | error => [error.message]

/-- The chain of causes below a failure to put rules together.  A problem of a declaration is
wrapped once, with the same words. -/
def RulesError.causes : RulesError → List String
  | .declaration error => [error.message, error.message]
  | error => [error.message]

def AnalysisError.causes (error : AnalysisError) : List String :=
  match error with
  | .unreadable _ reason => [error.message, reason.message]
  | .pattern problem => [error.message, problem.message]
  | .config problem => error.message :: problem.causes
  | _ => [error.message]

/-! ## Loading the configuration -/

structure LoadedConfig where
  source : ConfigSource := .builtIn
  config : Config := {}
  content : String := ""
  deriving Inhabited

namespace LoadedConfig

def withPreset (loaded : LoadedConfig) (preset : Option String) : LoadedConfig :=
  { loaded with config.preset := preset <|> loaded.config.preset }

def load (environment : Environment) (target : SourcePath) (named : Option SourcePath) :
    Session Failure LoadedConfig := do
  let files := (← get).files
  let source :=
    ConfigSource.resolve files environment.current environment.globalDirectory target named
  match source.path? with
  | none => return {}
  | some path =>
      if source = .global path then
        Session.log .info s!"Using global config: {path.text}"
      let content ← Session.within s!"Failed to read config: {path.text}"
        (fun error => [FileError.message error]) (files.readTextFrom environment.current path)
      let config ← Session.within s!"Failed to load config: {path.text}" ConfigError.causes
        (Config.parse content)
      return { source, config, content }

end LoadedConfig

/-! ## Checking -/

namespace Analyzer

/-- Read a source file.  A file that is no text is read as far as it goes. -/
def readSource (environment : Environment) (files : FileSystem) (path : SourcePath) :
    Session AnalysisError SourceUnit := do
  match files.read path with
  | .error reason => throw (.unreadable path reason)
  | .ok bytes =>
      let text ←
        match Text.decode? bytes with
        | some text => pure text
        | none => do
            Session.log .warn s!"{path.text} is not valid UTF-8; decoding lossily"
            pure (Text.decodeLossy bytes)
      let parsed := environment.parse text
      return { path, root := parsed.root, hasErrors := parsed.hasErrors }

def analyze (analyzer : Analyzer) (environment : Environment) : Session AnalysisError Report := do
  Session.log .info s!"Starting analysis at {analyzer.root.text}"
  let files := (← get).files
  let paths ← analyzer.discover files environment.current
  if paths.isEmpty then
    Session.log .warn s!"No Java files found under {analyzer.root.text}"
  Session.log .info s!"Found {paths.length} Java files to analyze"
  let units ← paths.mapM (readSource environment files)
  let report ← analyzer.run units
  Session.log .info <|
    s!"Analysis complete: {report.violations.length} violations in {report.filesChecked} files"
  return report

end Analyzer

namespace Command

def chosenRules (rules : List ApiRule) (names : List String) : List ApiRule :=
  rules.filter fun rule => names.contains rule.info.name || names.contains rule.info.code

def unknownNames (rules : List ApiRule) (names : List String) : List String :=
  names.filter fun name => !rules.any fun rule => rule.info.name = name || rule.info.code = name

def rulesOf (loaded : LoadedConfig) : Session Failure (List ApiRule) :=
  Session.within "Invalid rule configuration" RulesError.causes
    (loaded.config.ruleSet loaded.content)

structure CheckOptions where
  path : SourcePath := ⟨"."⟩
  format : OutputFormat := .text
  rules : Option String := none
  exclude : List String := []
  deriving DecidableEq, Repr, Inhabited

/-- Check the sources under a path and print a report.  The answer is whether there are errors. -/
def check (environment : Environment) (options : CheckOptions) (loaded : LoadedConfig) :
    Session Failure Bool := do
  let all ← rulesOf loaded
  let rules ←
    match options.rules with
    | none => pure all
    | some list => do
        let names := (Text.segments ',' list).map Text.trim
        for name in unknownNames all names do
          Session.log .warn s!"Unknown rule: {name}"
        pure (chosenRules all names)
  let request : AnalysisRequest := {
    root := some options.path
    rules := rules.map ApiRule.toUsageRule
    exclude := options.exclude
    config := loaded.config }
  let analyzer ← Session.within "Failed to build analyzer" AnalysisError.causes
    (request.analyzer environment.current)
  Session.log .info
    s!"Analyzing {Text.quoted options.path.text} with {analyzer.rules.length} rules"
  let (result, console) := (analyzer.analyze environment).run.run (← get)
  set console
  let report ← Session.within "Analysis failed" AnalysisError.causes result
  Session.print (report.print options.format)
  return report.hasErrors

/-! ## Listing the rules -/

def ruleLine (code name description : String) : String :=
  Text.padded 10 code ++ " " ++ Text.padded 25 name ++ " " ++ description

def ruleTable (rules : List ApiRule) : List String :=
  [ruleLine "Code" "Name" "Description", String.ofList (List.replicate 80 '-')] ++
    rules.map fun rule => ruleLine rule.info.code rule.info.name rule.info.summary

def presetLines (active : Preset) : List String :=
  Preset.all.map fun preset =>
    let mark := if preset = active then " (active)" else ""
    "  " ++ Text.padded 12 preset.name ++ " - " ++ preset.description ++ mark

def listRules (loaded : LoadedConfig) : Session Failure Unit := do
  let preset ← Session.within "Invalid rule configuration" RulesError.causes loaded.config.presetOf
  let rules ← rulesOf loaded
  let source := loaded.source.path?.elim [] fun path => [s!"Config: {path.text}", ""]
  let lines := source ++ ["Available rules:", ""] ++ ruleTable rules ++ ["", "Presets:"] ++
    presetLines preset ++ ["",
      "Declare more variants with [[restricted]] tables in unstable-lint.toml.",
      "Use --rules to filter specific rules, e.g.:",
      "  unstable-lint check --rules beta-api",
      "  unstable-lint check --rules UA001,UA100"]
  Session.print (String.join (lines.map (· ++ "\n")))

/-! ## A first configuration file -/

def initialConfig : List String := [
  "# unstable-lint configuration",
  "",
  "# Rule preset: \"recommended\" or \"strict\" (no Cache/LoadingCache exemption)",
  "preset = \"recommended\"",
  "",
  "[analyzer]",
  "# Root directory to analyze (default: current directory)",
  "# root = \"./src/main/java\"",
  "",
  "# Glob patterns to exclude from analysis",
  "exclude = [",
  "    \"**/build/**\",",
  "    \"**/target/**\",",
  "    \"**/generated/**\",",
  "]",
  "",
  "# Respect .gitignore files",
  "respect_gitignore = true",
  "",
  "# Fail when a source file has syntax errors",
  "fail_on_parse_error = false",
  "",
  "# Guava @Beta APIs (UA001)",
  "[rules.beta-api]",
  "enabled = true",
  "# severity = \"warning\"  # Override default severity",
  "# extra_ignored_types = [\"com.google.common.graph.Graph\"]",
  "# extra_ignored_packages = [\"com.google.common.testing\"]",
  "",
  "# Additional restricted annotations, one table per variant",
  "# [[restricted]]",
  "# name = \"internal-api\"",
  "# base_namespace = \"com.example\"",
  "# annotation = \"com.example.annotations.Internal\"",
  "# ignored_types = [\"com.example.LegacyCache\"]",
  "# severity = \"warning\""]

/-- Write a configuration file into the current directory.  An existing one is kept unless
`force` is set. -/
def init (environment : Environment) (force : Bool) : Session Failure Unit := do
  let shown : SourcePath := ⟨"./unstable-lint.toml"⟩
  let path := environment.current.join shown
  let files := (← get).files
  if files.contains path && !force then
    throw { message :=
      s!"Configuration file already exists at {shown.text}. Use --force to overwrite." }
  let content := String.join (initialConfig.map (· ++ "\n"))
  let files ← Session.within s!"Failed to write {shown.text}"
    (fun error => [FileError.message error]) (files.write path (Text.encode content))
  modify fun console => { console with files }
  Session.print <| String.join <| ["Created unstable-lint.toml", "", "Next steps:",
    "  1. Edit unstable-lint.toml to configure rules", "  2. Run: unstable-lint check"].map
    (· ++ "\n")

end Command

end RestrictedApi
