import MessageExpansion.Lint.Issue
import MessageExpansion.Report.Style
import MessageExpansion.Text.DisplayWidth

/-!
# Reports of issues

Every issue is shown with its place, the line of the script with a mark under the call, and what
else there is to say about it.  A line with the number of issues follows.
-/

namespace MessageExpansion
namespace Report

/-- The layout of a report. -/
structure Layout where
  /-- Whether colours are used. -/
  coloured : Bool
  /-- The columns for line numbers. -/
  gutter : Nat

/-- The colour of a severity. -/
def severityColour : Severity → Colour
  | .error => .red
  | .warning => .yellow

/-- The word for a severity. -/
def severityName : Severity → String
  | .error => "error"
  | .warning => "warning"

namespace Layout

/-- A piece of text in a style. -/
def paint (layout : Layout) (style : Style) (text : String) : String :=
  style.paint layout.coloured text

/-- A line behind the gutter, which is empty, and a blue mark. -/
def behindGutter (layout : Layout) (mark rest : String) : String :=
  blanks layout.gutter ++ " " ++ layout.paint (.plain .blue) mark ++ rest ++ "\n"

/-- The first line of an issue: how bad it is, what it is, and the rule. -/
def heading (layout : Layout) (issue : Issue) : String :=
  layout.paint (.strong (severityColour issue.severity)) (severityName issue.severity) ++ ": " ++
    issue.message ++ "  " ++ layout.paint (.faint .cyan) issue.rule.name ++ "\n"

/-- The line with the place of an issue. -/
def placeLine (layout : Layout) (issue : Issue) : String :=
  let place := match issue.excerpt? with
    | some excerpt =>
        if excerpt.location.line = 0 then excerpt.location.file else excerpt.location.describe
    | none => issue.file
  "  " ++ layout.paint (.plain .blue) "-->" ++ " " ++ place ++ "\n"

/-- The blanks before the mark under a call: as wide as the characters before its column. -/
def caretPadding (excerpt : Excerpt) : Nat :=
  Text.textWidth (excerpt.line.toList.take (excerpt.location.column - 1))

/-- The line of the script with a mark under the call. -/
def quotedLine (layout : Layout) (severity : Severity) (excerpt : Excerpt) : String :=
  let number := toString excerpt.location.line
  layout.behindGutter "|" "" ++
    layout.paint (.plain .blue) (blanks (layout.gutter - number.length) ++ number) ++ " " ++
    layout.paint (.plain .blue) "|" ++ " " ++ excerpt.line ++ "\n" ++
    layout.behindGutter "|" (" " ++ blanks (caretPadding excerpt) ++
      layout.paint (.plain (severityColour severity)) "^")

/-- The lines with what else there is to say about an issue. -/
def remarks (layout : Layout) (issue : Issue) : String :=
  let note := match issue.details? with
    | some details =>
        layout.behindGutter "=" (" " ++ layout.paint ⟨true, false, none⟩ "note:" ++ " " ++ details)
    | none => ""
  let hint := match issue.hint? with
    | some hint =>
        layout.behindGutter "=" (" " ++ layout.paint (.strong .cyan) "hint:" ++ " " ++ hint)
    | none => ""
  note ++ hint

/-- An issue with an empty line behind it. -/
def issue (layout : Layout) (issue : Issue) : String :=
  let quoted := match issue.excerpt? with
    | some excerpt => layout.quotedLine issue.severity excerpt
    | none => ""
  layout.heading issue ++ layout.placeLine issue ++ quoted ++ layout.remarks issue ++ "\n"

/-- The line with the number of issues. -/
def summary (layout : Layout) (issues : List Issue) : String :=
  let errors := errorCount issues
  let warnings := warningCount issues
  let word (count : Nat) (one many : String) : String := if count = 1 then one else many
  layout.paint (.plain .red) failureMark ++ " " ++
    counted (errors + warnings) "problem" "problems" ++ " (" ++
    toString errors ++ " " ++ layout.paint (.plain .red) (word errors "error" "errors") ++ ", " ++
    toString warnings ++ " " ++
    layout.paint (.plain .yellow) (word warnings "warning" "warnings") ++ ")\n"

end Layout

/-- The columns that the greatest line number takes. -/
def gutterWidth (issues : List Issue) : Nat :=
  match issues.filterMap (·.excerpt?) with
  | [] => 1
  | excerpts =>
      (toString (excerpts.foldl (fun greatest excerpt => max greatest excerpt.location.line)
        0)).length

/-- The report of issues, in the order in which they are listed; there is none without issues. -/
def ofIssues (coloured : Bool) (issues : List Issue) : String :=
  if issues.isEmpty then ""
  else
    let sorted := Issue.sort issues
    let layout : Layout := ⟨coloured, gutterWidth sorted⟩
    String.join (sorted.map layout.issue) ++ layout.summary sorted

end Report
end MessageExpansion
