import ChangeLint.Report.Layout
import ChangeLint.Report.Sink

/-! # Writing a report

In the standard layout a finding is written as soon as it is kept; in the grouped layout all
findings of a file are written once the file is done.  After every file the sink is flushed,
in either layout, and also if nothing was written. -/

namespace ChangeLint.Report

/-- How a report is written. -/
structure Style where
  theme : Theme
  layout : Layout
  deriving DecidableEq, Repr

namespace Style

/-- What is written as soon as a finding is kept. -/
def onKept (style : Style) (finding : Finding) : List String :=
  match style.layout with
  | .standard => [standardLine style.theme finding]
  | .grouped => []

/-- What is written once a file is done. -/
def onFinished (style : Style) (file : String) (findings : List Finding) : List String :=
  match style.layout with
  | .standard => []
  | .grouped =>
    if findings.isEmpty then []
    else headingLine style.theme file :: findings.map (groupedLine style.theme)

/-- Writes lines one after the other. -/
def writeAll : List String → Attempt Sink Unit
  | [] => pure ()
  | line :: lines => do
    Sink.write line
    writeAll lines

/-- Reports a finding that was kept. -/
def findingKept (style : Style) (finding : Finding) : Attempt Sink Unit :=
  writeAll (style.onKept finding)

/-- Reports that a file is done. -/
def fileFinished (style : Style) (file : String) (findings : List Finding) :
    Attempt Sink Unit := do
  writeAll (style.onFinished file findings)
  Sink.flush

end Style

end ChangeLint.Report
