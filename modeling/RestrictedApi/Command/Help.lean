import RestrictedApi.Text.Blank

/-!
# Help on the command line

The text that the program prints when it is asked for help, on itself or on one of its commands.  A
short text has a line for every argument.  The long one, which is there only if some argument has
more to tell, puts the description of an argument under its name.
-/

namespace RestrictedApi
namespace Command

inductive HelpTopic where
  | program
  | check
  | listRules
  | init
  | help
  deriving DecidableEq, Repr, Inhabited

structure HelpEntry where
  label : String
  text : String
  default : Option String := none
  choices : List (String × String) := []
  deriving DecidableEq, Repr, Inhabited

namespace HelpEntry

def defaultNote (entry : HelpEntry) : List String :=
  entry.default.toList.map fun value => "[default: " ++ value ++ "]"

def choicesNote (entry : HelpEntry) : List String :=
  if entry.choices.isEmpty then []
  else ["[possible values: " ++ String.intercalate ", " (entry.choices.map (·.1)) ++ "]"]

def line (width : Nat) (entry : HelpEntry) : String :=
  let text := String.intercalate " " (entry.text :: entry.defaultNote ++ entry.choicesNote)
  "  " ++ Text.padded width entry.label ++ "  " ++ text

def margin : String := "          "

def choiceLines (entry : HelpEntry) : List String :=
  if entry.choices.isEmpty then []
  else
    let width := (entry.choices.map fun choice => choice.1.length).foldl max 0
    ["", margin ++ "Possible values:"] ++ entry.choices.map fun (word, text) =>
      margin ++ "- " ++ Text.padded (width + 2) (word ++ ":") ++ text

def block (entry : HelpEntry) : List String :=
  let notes := entry.defaultNote.flatMap fun note => [margin, margin ++ note]
  ["  " ++ entry.label, margin ++ entry.text] ++ notes ++ entry.choiceLines

end HelpEntry

structure HelpSection where
  heading : String
  entries : List HelpEntry
  deriving DecidableEq, Repr, Inhabited

namespace HelpSection

def lines (part : HelpSection) : List String :=
  let width := (part.entries.map fun entry => entry.label.length).foldl max 0
  (part.heading ++ ":") :: part.entries.map (HelpEntry.line width)

def blocks (part : HelpSection) : List String :=
  (part.heading ++ ":") :: List.intercalate [""] (part.entries.map HelpEntry.block)

end HelpSection

/-! ## The arguments -/

def verboseHelp : HelpEntry := ⟨"-v, --verbose", "Enable verbose output", none, []⟩

def configHelp : HelpEntry := ⟨"-c, --config <CONFIG>", "Path to configuration file", none, []⟩

def presetHelp : HelpEntry :=
  ⟨"    --preset <PRESET>", "Rule preset, overriding the config file (recommended, strict)",
    none, []⟩

def helpHelp (text : String) : HelpEntry := ⟨"-h, --help", text, none, []⟩

def pathHelp : HelpEntry :=
  ⟨"[PATH]", "Path to analyze (default: current directory)", some ".", []⟩

def formatHelp : HelpEntry :=
  ⟨"-f, --format <FORMAT>", "Output format", some "text",
    [("text", "Human-readable text output"), ("json", "JSON output"),
      ("compact", "One-line-per-violation compact format"),
      ("fancy", "Source snippets with labels, rendered by miette")]⟩

def rulesHelp : HelpEntry :=
  ⟨"    --rules <RULES>", "Only run specific rules (comma-separated names or codes)", none, []⟩

def excludeHelp : HelpEntry :=
  ⟨"-e, --exclude <EXCLUDE>", "Exclude patterns (can be specified multiple times)", none, []⟩

def forceHelp : HelpEntry := ⟨"    --force", "Overwrite existing config", none, []⟩

/-! ## The topics -/

namespace HelpTopic

def summary : HelpTopic → String
  | .program => "CLI for unstable-lint, the restricted-API usage checker"
  | .check => "Run lint checks"
  | .listRules => "List available rules"
  | .init => "Initialize configuration file"
  | .help => "Print this message or the help of the given subcommand(s)"

def usage : HelpTopic → String
  | .program => "unstable-lint [OPTIONS] <COMMAND>"
  | .check => "unstable-lint check [OPTIONS] [PATH]"
  | .listRules => "unstable-lint list-rules [OPTIONS]"
  | .init => "unstable-lint init [OPTIONS]"
  | .help => "unstable-lint help [COMMAND]..."

def word : HelpTopic → String
  | .program => "unstable-lint"
  | .check => "check"
  | .listRules => "list-rules"
  | .init => "init"
  | .help => "help"

def hasMore (topic : HelpTopic) : Bool :=
  topic = .check

def sections (long : Bool) : HelpTopic → List HelpSection
  | .program => [
      ⟨"Commands", [HelpTopic.check, .listRules, .init, .help].map fun topic =>
        ⟨topic.word, topic.summary, none, []⟩⟩,
      ⟨"Options", [verboseHelp, configHelp, presetHelp, helpHelp "Print help",
        ⟨"-V, --version", "Print version", none, []⟩]⟩]
  | .check =>
      let other := if long then "(see a summary with '-h')" else "(see more with '--help')"
      [⟨"Arguments", [pathHelp]⟩,
        ⟨"Options", [formatHelp, verboseHelp, configHelp, rulesHelp, excludeHelp, presetHelp,
          helpHelp ("Print help " ++ other)]⟩]
  | .listRules =>
      [⟨"Options", [verboseHelp, configHelp, presetHelp, helpHelp "Print help"]⟩]
  | .init =>
      [⟨"Options", [forceHelp, verboseHelp, configHelp, presetHelp, helpHelp "Print help"]⟩]
  | .help =>
      [⟨"Arguments", [⟨"[COMMAND]...", "Print help for the subcommand(s)", none, []⟩]⟩]

/-- The lines of help on a topic.  The long text is given only where there is more to tell. -/
def lines (topic : HelpTopic) (long : Bool) : List String :=
  let long := long && topic.hasMore
  let parts := (topic.sections long).map fun part => if long then part.blocks else part.lines
  [topic.summary, "", "Usage: " ++ topic.usage, ""] ++ List.intercalate [""] parts

end HelpTopic

end Command
end RestrictedApi
