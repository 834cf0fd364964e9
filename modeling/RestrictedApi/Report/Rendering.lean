import RestrictedApi.Report.Encoding

/-!
# Printed reports

The text that a report prints, in each of the formats that a user can ask for.  Every line ends
with a line break.
-/

namespace RestrictedApi

inductive OutputFormat where
  /-- A paragraph for each violation, in colour, and a summary. -/
  | text
  | json
  /-- A line for each violation. -/
  | compact
  /-- A line for each violation, and a summary. -/
  | fancy
  deriving DecidableEq, Repr, Inhabited

namespace OutputFormat

def ofWord? : String → Option OutputFormat
  | "text" => some .text
  | "json" => some .json
  | "compact" => some .compact
  | "fancy" => some .fancy
  | _ => none

end OutputFormat

namespace Terminal

inductive Colour where
  | red
  | green
  | yellow
  | blue

def Colour.start : Colour → String
  | .red => "\x1b[31m"
  | .green => "\x1b[32m"
  | .yellow => "\x1b[33m"
  | .blue => "\x1b[34m"

def paint (colour : Colour) (text : String) : String :=
  colour.start ++ text ++ "\x1b[0m"

end Terminal

namespace Severity

def colour : Severity → Terminal.Colour
  | .error => .red
  | .warning => .yellow
  | .info => .blue

end Severity

namespace Violation

def paragraph (violation : Violation) : List String :=
  let location := violation.location
  [s!"{violation.code} {violation.rule} at {location.file.text}:{location.line}:{location.column}",
    s!"  {Terminal.paint violation.severity.colour violation.severity.word}: {violation.message}"]
  ++ (violation.suggestion.map ("  = help: " ++ ·)).toList
  ++ (violation.link.map ("  = see: " ++ ·)).toList
  ++ [""]

end Violation

namespace Report

/-- The closing line: how many violations of each severity there are, in the colour of the worst. -/
def summary (report : Report) : String :=
  let errors := report.count .error
  let warnings := report.count .warning
  let infos := report.count .info
  let colour : Terminal.Colour :=
    if errors > 0 then .red else if warnings > 0 then .yellow else .green
  Terminal.paint colour <|
    s!"Found {errors} error(s), {warnings} warning(s), {infos} info(s) in " ++
      s!"{report.filesChecked} file(s)"

def lines (report : Report) : OutputFormat → List String
  | .text => report.violations.flatMap Violation.paragraph ++ [report.summary]
  | .json => [report.indentedJson]
  | .compact => report.violations.map Violation.line
  | .fancy => report.violations.map Violation.line ++ [report.summary]

def print (report : Report) (format : OutputFormat) : String :=
  String.join ((report.lines format).map (· ++ "\n"))

end Report
end RestrictedApi
