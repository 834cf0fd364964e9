import RestrictedApi.Json
import RestrictedApi.Report

/-!
# Reports as JSON

`Report.toJson` writes a report, `Report.ofJson?` reads one.  A record is written as an object with
its fields in a fixed order; it is read from an object in any order, or from an array of its fields
in that order.  Unknown fields are skipped and a repeated field is refused.  A link is written only
if there is one, a suggestion always.
-/

namespace RestrictedApi

namespace Location

def toJson (location : Location) : Json :=
  .object [
    ("file", .text location.file.text),
    ("line", .natural location.line),
    ("column", .natural location.column),
    ("offset", .natural location.offset),
    ("length", .natural location.length)]

end Location

namespace Violation

def suggestionToJson : Option String → Json
  | none => .null
  | some message => .object [("message", .text message)]

def toJson (violation : Violation) : Json :=
  .object ([
    ("code", .text violation.code),
    ("rule", .text violation.rule),
    ("severity", .text violation.severity.word),
    ("location", violation.location.toJson),
    ("message", .text violation.message),
    ("suggestion", suggestionToJson violation.suggestion)] ++
    (violation.link.map fun link => ("link", Json.text link)).toList)

end Violation

namespace Report

def toJson (report : Report) : Json :=
  .object [
    ("violations", .array (report.violations.map Violation.toJson)),
    ("files_checked", .natural report.filesChecked),
    ("usages_checked", .natural report.usagesChecked)]

end Report

namespace Json

def text? : Json → Option String
  | .text value => some value
  | _ => none

/-- A count or position: a natural number that fits in 64 bits. -/
def count? : Json → Option Nat
  | .natural n => if n ≤ 0xFFFFFFFFFFFFFFFF then some n else none
  | _ => none

/-- The value of a field that occurs at most once. -/
def field? (fields : List (String × Json)) (name : String) : Option (Option Json) :=
  match fields.filter fun field => field.1 == name with
  | [] => some none
  | [(_, value)] => some (some value)
  | _ => none

/-- The values of a record's fields, in the order of `names`.  In an array at least the first
`required` must be there and nothing may follow the last. -/
def record? (names : List String) (required : Nat) : Json → Option (List (Option Json))
  | .object fields => names.mapM (field? fields)
  | .array items =>
      if required ≤ items.length ∧ items.length ≤ names.length then
        some (items.map some ++ List.replicate (names.length - items.length) none)
      else none
  | _ => none

def optional? {α : Type} (read : Json → Option α) : Option Json → Option (Option α)
  | none => some none
  | some .null => some none
  | some value => (read value).map some

end Json

namespace Severity

/-- A severity is its word, or an object whose only key is the word and whose value is null. -/
def ofJson? : Json → Option Severity
  | .text word => ofWord? word
  | .object [(word, .null)] => ofWord? word
  | _ => none

end Severity

namespace Location

def ofJson? (json : Json) : Option Location := do
  match ← json.record? ["file", "line", "column", "offset", "length"] 5 with
  | [some file, some line, some column, some offset, some length] =>
      return {
        file := ⟨← file.text?⟩
        line := ← line.count?
        column := ← column.count?
        offset := ← offset.count?
        length := ← length.count? }
  | _ => none

end Location

namespace Violation

def suggestionOfJson? (json : Json) : Option String := do
  match ← json.record? ["message"] 1 with
  | [some message] => message.text?
  | _ => none

def ofJson? (json : Json) : Option Violation := do
  let names := ["code", "rule", "severity", "location", "message", "suggestion", "link"]
  match ← json.record? names 6 with
  | [some code, some rule, some severity, some location, some message, suggestion, link] =>
      return {
        code := ← code.text?
        rule := ← rule.text?
        severity := ← Severity.ofJson? severity
        location := ← Location.ofJson? location
        message := ← message.text?
        suggestion := ← Json.optional? suggestionOfJson? suggestion
        link := ← Json.optional? Json.text? link }
  | _ => none

end Violation

namespace Report

def ofJson? (json : Json) : Option Report := do
  match ← json.record? ["violations", "files_checked", "usages_checked"] 2 with
  | [some (.array violations), some files, usages] =>
      return {
        violations := ← violations.mapM Violation.ofJson?
        filesChecked := ← files.count?
        usagesChecked := ← (usages.map Json.count?).getD (some 0) }
  | _ => none

def compactJson (report : Report) : String :=
  report.toJson.render .compact

def indentedJson (report : Report) : String :=
  report.toJson.render .indented

def parseJson? (text : String) : Option Report :=
  (Json.parse? text).bind ofJson?

end Report

end RestrictedApi
