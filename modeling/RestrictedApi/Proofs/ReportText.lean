import Mathlib.Data.List.Basic
import RestrictedApi.Proofs.JsonText
import RestrictedApi.Report.Rendering

/-!
# Reports are read back

A report whose counts and positions fit in 64 bits is what its JSON text holds, compact, indented or
printed.  Each record is read from the object that was written for it: its fields occur once, and
only the link of a violation may be missing.
-/

namespace RestrictedApi

/-!
# Written values are plain
-/

namespace Location

theorem plain_toJson (location : Location) : location.toJson.Plain := by
  apply Json.Plain.object
  intro field hfield
  simp only [List.mem_cons, List.not_mem_nil, or_false] at hfield
  rcases hfield with rfl | rfl | rfl | rfl | rfl <;> constructor

end Location

namespace Violation

theorem plain_suggestionToJson (suggestion : Option String) :
    (suggestionToJson suggestion).Plain := by
  cases suggestion with
  | none => exact .null
  | some message =>
    apply Json.Plain.object
    intro field hfield
    rw [List.mem_singleton.mp hfield]
    exact .text message

theorem plain_toJson (violation : Violation) : violation.toJson.Plain := by
  apply Json.Plain.object
  intro field hfield
  rcases List.mem_append.mp hfield with hfixed | hlink
  · simp only [List.mem_cons, List.not_mem_nil, or_false] at hfixed
    rcases hfixed with rfl | rfl | rfl | rfl | rfl | rfl
    · exact .text violation.code
    · exact .text violation.rule
    · exact .text violation.severity.word
    · exact violation.location.plain_toJson
    · exact .text violation.message
    · exact plain_suggestionToJson violation.suggestion
  · rcases hcase : violation.link with _ | link
    · simp [hcase] at hlink
    · simp only [hcase, Option.map_some, Option.toList_some, List.mem_singleton] at hlink
      rw [hlink]
      exact .text link

end Violation

namespace Report

theorem plain_toJson (report : Report) : report.toJson.Plain := by
  apply Json.Plain.object
  intro field hfield
  simp only [List.mem_cons, List.not_mem_nil, or_false] at hfield
  rcases hfield with rfl | rfl | rfl
  · apply Json.Plain.array
    intro item hitem
    obtain ⟨violation, -, rfl⟩ := List.mem_map.mp hitem
    exact violation.plain_toJson
  · exact .natural report.filesChecked
  · exact .natural report.usagesChecked

end Report

/-!
# Records are read from their objects
-/

namespace Json

def IsCount (n : Nat) : Prop :=
  n ≤ 0xFFFFFFFFFFFFFFFF

instance (n : Nat) : Decidable (IsCount n) :=
  inferInstanceAs (Decidable (n ≤ 0xFFFFFFFFFFFFFFFF))

theorem count_natural {n : Nat} (hn : IsCount n) : (Json.natural n).count? = some n :=
  if_pos hn

end Json

namespace Location

structure Fits (location : Location) : Prop where
  line : Json.IsCount location.line
  column : Json.IsCount location.column
  offset : Json.IsCount location.offset
  length : Json.IsCount location.length

theorem ofJson_toJson {location : Location} (hfits : location.Fits) :
    ofJson? location.toJson = some location := by
  simp [ofJson?, toJson, Json.record?, Json.field?, Json.text?, Json.count_natural hfits.line,
    Json.count_natural hfits.column, Json.count_natural hfits.offset,
    Json.count_natural hfits.length]

end Location

namespace Violation

theorem suggestionOfJson_suggestionToJson (suggestion : Option String) :
    Json.optional? suggestionOfJson? (some (suggestionToJson suggestion)) = some suggestion := by
  cases suggestion with
  | none => rfl
  | some message =>
    simp [Json.optional?, suggestionToJson, suggestionOfJson?, Json.record?, Json.field?,
      Json.text?]

theorem textOfJson_link (link : Option String) :
    Json.optional? Json.text? (link.map Json.text) = some link := by
  cases link <;> rfl

-- The object has a field for the link or it has none.
theorem record_toJson (violation : Violation) :
    violation.toJson.record?
      ["code", "rule", "severity", "location", "message", "suggestion", "link"] 6 =
        some [some (.text violation.code), some (.text violation.rule),
          some (.text violation.severity.word), some violation.location.toJson,
          some (.text violation.message), some (suggestionToJson violation.suggestion),
          violation.link.map Json.text] := by
  cases hlink : violation.link <;> simp [toJson, Json.record?, Json.field?, hlink]

theorem ofJson_toJson {violation : Violation} (hfits : violation.location.Fits) :
    ofJson? violation.toJson = some violation := by
  have hseverity : Severity.ofJson? (.text violation.severity.word) = some violation.severity :=
    Severity.ofWord?_word violation.severity
  simp [ofJson?, record_toJson, Json.text?, hseverity, Location.ofJson_toJson hfits,
    suggestionOfJson_suggestionToJson, textOfJson_link]

theorem mapM_ofJson_toJson {violations : List Violation}
    (hfits : ∀ violation, violation ∈ violations → violation.location.Fits) :
    (violations.map toJson).mapM ofJson? = some violations := by
  induction violations with
  | nil => rfl
  | cons violation violations ih =>
    have hhead := ofJson_toJson (hfits violation List.mem_cons_self)
    have htail := ih fun other hother => hfits other (List.mem_cons_of_mem violation hother)
    simp [hhead, htail]

end Violation

namespace Report

structure Fits (report : Report) : Prop where
  filesChecked : Json.IsCount report.filesChecked
  usagesChecked : Json.IsCount report.usagesChecked
  locations : ∀ violation, violation ∈ report.violations → violation.location.Fits

theorem ofJson_toJson {report : Report} (hfits : report.Fits) :
    ofJson? report.toJson = some report := by
  simp [ofJson?, toJson, Json.record?, Json.field?, Violation.mapM_ofJson_toJson hfits.locations,
    Json.count_natural hfits.filesChecked, Json.count_natural hfits.usagesChecked]

theorem parseJson_render {report : Report} (hfits : report.Fits) {layout : Json.Layout}
    (hlayout : layout.IsBlank) (blanks : List Char)
    (hblanks : ∀ c, c ∈ blanks → Json.isBlank c = true) :
    parseJson? (report.toJson.render layout ++ String.ofList blanks) = some report := by
  rw [parseJson?, Json.parse_render hlayout report.plain_toJson hblanks, Option.bind_some]
  exact ofJson_toJson hfits

/-- Reading a report's text gives the report, in each layout and as it is printed. -/
theorem parseJson_written (report : Report) (hfits : report.Fits) :
    parseJson? report.compactJson = some report ∧
      parseJson? report.indentedJson = some report ∧
        parseJson? (report.print .json) = some report := by
  refine ⟨?_, ?_, ?_⟩
  · simpa [compactJson] using parseJson_render hfits Json.Layout.isBlank_compact [] (by simp)
  · simpa [indentedJson] using parseJson_render hfits Json.Layout.isBlank_indented [] (by simp)
  · have hprint : report.print .json = report.toJson.render .indented ++ String.ofList ['\n'] := by
      simp [print, lines, indentedJson, String.join]
    rw [hprint]
    exact parseJson_render hfits Json.Layout.isBlank_indented ['\n'] (by simp [Json.isBlank])

/-- Two violations, one without a suggestion and a link, with texts that need every kind of escape
and a count that is the largest there is. -/
def escapedReport : Report where
  violations := [
    { code := "UA\"001\\", rule := "tab\tbell\x07", severity := .warning
      location := { file := ⟨"src/Grüße.java"⟩, line := 1, column := 0, offset := 0, length := 3 }
      message := "two\nlines\x7f𝄞" },
    { code := "", rule := "/", severity := .error
      location := { file := ⟨""⟩, line := 0, column := 7, offset := 0, length := 0 }
      message := "\x08\x0c\r\x00", suggestion := some "", link := some "null" }]
  filesChecked := 0xFFFFFFFFFFFFFFFF
  usagesChecked := 10

theorem escapedReport_fits : escapedReport.Fits where
  filesChecked := by decide
  usagesChecked := by decide
  locations := by
    intro violation hviolation
    simp only [escapedReport, List.mem_cons, List.not_mem_nil, or_false] at hviolation
    rcases hviolation with rfl | rfl
    · exact ⟨by decide, by decide, by decide, by decide⟩
    · exact ⟨by decide, by decide, by decide, by decide⟩

theorem escapedReport_written : parseJson? escapedReport.compactJson = some escapedReport ∧
    parseJson? escapedReport.indentedJson = some escapedReport ∧
      parseJson? (escapedReport.print .json) = some escapedReport :=
  parseJson_written escapedReport escapedReport_fits

end Report
end RestrictedApi
