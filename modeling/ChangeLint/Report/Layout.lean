import ChangeLint.Finding
import ChangeLint.Report.Theme

/-! # Layouts

A report has one of two layouts.

* The standard layout has one line `file:line:column: code description` for each finding.
* The grouped layout has a heading for each file, followed by one indented line for each of
  its findings.

Both are made of the painted texts of the parts. -/

namespace ChangeLint.Report

/-- How findings are laid out. -/
inductive Layout where
  | standard
  | grouped
  deriving DecidableEq, Repr

/-- The layout that a flag asks for. -/
def Layout.ofFlag (standard : Bool) : Layout := if standard then .standard else .grouped

/-- The painted text of each part. -/
structure Painted where
  line : String
  column : String
  code : String
  description : String
  file : String
  header : String
  deriving DecidableEq, Repr

namespace Painted

/-- Paints fields that are looked up by key; a missing field is the empty text. -/
def ofFields (theme : Theme) (get? : String → Option String) : Painted where
  line := theme.paint .line ((get? "line_number").getD "")
  column := theme.paint .column ((get? "char_number").getD "")
  code := theme.paint .code ((get? "error_code").getD "")
  description := theme.paint .description ((get? "description").getD "")
  file := theme.paint .file ((get? "filename").getD "")
  header := theme.paint .header ((get? "header").getD "")

/-- Paints a finding. -/
def ofFinding (theme : Theme) (finding : Finding) : Painted := ofFields theme finding.get?

/-- The fields of the heading of a file. -/
def headingFields (file header : String) (key : String) : Option String :=
  match key with
  | "filename" => some file
  | "header" => some header
  | _ => none

/-- Paints the heading of a file. -/
def ofHeading (theme : Theme) (file header : String) : Painted :=
  ofFields theme (headingFields file header)

/-- The line of the standard layout. -/
def flat (p : Painted) : String :=
  p.file ++ ":" ++ p.line ++ ":" ++ p.column ++ ": " ++ p.code ++ " " ++ p.description

/-- The heading of the grouped layout. -/
def heading (p : Painted) : String := p.header ++ ": " ++ p.file

/-- The line of the grouped layout. -/
def grouped (p : Painted) : String :=
  "\t" ++ p.code ++ " @ " ++ p.line ++ ":" ++ p.column ++ " - " ++ p.description

end Painted

/-- What stands before the file in a heading. -/
def headingText : String := "Found violations"

/-- A line of the report with its end. -/
def ended (line : String) : String := line ++ "\n"

/-- The line written for a finding in the standard layout. -/
def standardLine (theme : Theme) (finding : Finding) : String :=
  ended (Painted.ofFinding theme finding).flat

/-- The line written for a file in the grouped layout. -/
def headingLine (theme : Theme) (file : String) : String :=
  ended (Painted.ofHeading theme file headingText).heading

/-- The line written for a finding in the grouped layout. -/
def groupedLine (theme : Theme) (finding : Finding) : String :=
  ended (Painted.ofFinding theme finding).grouped

end ChangeLint.Report
