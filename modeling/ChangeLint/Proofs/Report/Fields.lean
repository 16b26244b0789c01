import ChangeLint.Proofs.Engine.Visits
import ChangeLint.Proofs.Report.Grammar

/-! # The fields of a finding

What the parts of a line of a linter's report are, and how they stand in a line of this program's
own report.

* `ofChars?_eq_some` takes a line that states a finding apart: it is the fields with the marks
  between them, and no field holds a character that could be taken for such a mark.
* `Visit.exists_line_of_mem_kept` is the same for what a visit finds.
* `flat_of_parse?` is the way back for the standard layout: a finding without emphasis is written
  as the line that stated it. -/

namespace ChangeLint

/-! ## Section 1: Lines that state a finding -/

namespace Finding

/-- A line that states a finding is the fields of the finding with the marks between them. -/
theorem ofChars?_eq_some {cs : List Char} {finding : Finding} (hline : '\n' ∉ cs)
    (h : ofChars? cs = some finding) : cs = finding.chars ∧ finding.Sound := by
  obtain ⟨hform, tail, rfl, hend⟩ := states_of_ofChars? h
  refine ⟨?_, hform.toSound⟩
  -- What stands behind the description would start with a line feed, but a line has none.
  cases tail with
  | nil => rw [List.append_nil]
  | cons c tail =>
    have hc : c = '\n' := hend c rfl
    rw [hc] at hline
    exact absurd (by simp) hline

/-- No field of a finding stated by a line holds a character that the line does not hold. -/
theorem Sound.not_newline {finding : Finding} (h : finding.Sound) : '\n' ∉ finding.chars := by
  have hfile : '\n' ∉ finding.file.toList := fun hn => absurd (h.file _ hn) (by decide)
  have hline : '\n' ∉ finding.line.toList := fun hn => absurd (h.line _ hn) (by decide)
  have hcolumn : '\n' ∉ finding.column.toList := fun hn => absurd (h.column _ hn) (by decide)
  have hcode : '\n' ∉ finding.code.toList := fun hn => absurd (h.code _ hn) (by decide)
  -- The marks are no line feeds either.
  simp [chars, hfile, hline, hcolumn, hcode, h.description]

/-- The same on strings. -/
theorem parse?_eq_some {line : String} {finding : Finding} (hline : '\n' ∉ line.toList)
    (h : parse? line = some finding) : line = String.ofList finding.chars ∧ finding.Sound := by
  obtain ⟨hchars, hsound⟩ := ofChars?_eq_some hline h
  refine ⟨?_, hsound⟩
  rw [← hchars, String.ofList_toList]

end Finding

namespace Visit

/-- What a visit finds is stated by a line of the report, which is the fields of the finding with
the marks between them. -/
theorem exists_line_of_mem_kept {visit : Visit} {finding : Finding} (h : finding ∈ visit.kept) :
    ∃ line ∈ Text.lines visit.report, line.toList = finding.chars ∧
      Finding.parse? line = some finding ∧ finding.Sound := by
  obtain ⟨line, hline, hfound⟩ := List.mem_filterMap.mp h
  -- A finding that is kept was read from a line before it was looked up.
  have hparse : Finding.parse? line = some finding := (Option.filter_eq_some_iff.mp hfound).1
  obtain ⟨hchars, hsound⟩ := Finding.parse?_eq_some (Text.not_newline_of_mem_lines hline) hparse
  refine ⟨line, hline, ?_, hparse, hsound⟩
  rw [hchars, String.toList_ofList]

theorem sound_of_mem_kept {visit : Visit} {finding : Finding} (h : finding ∈ visit.kept) :
    finding.Sound := by
  obtain ⟨_, _, _, _, hsound⟩ := exists_line_of_mem_kept h
  exact hsound

/-- The fields of what a visit finds hold characters of the report only. -/
theorem mem_report_of_mem_kept {visit : Visit} {finding : Finding} (h : finding ∈ visit.kept)
    {c : Char} (hc : c ∈ finding.chars) : c ∈ visit.report.toList := by
  obtain ⟨line, hline, hchars, _, _⟩ := exists_line_of_mem_kept h
  exact Text.mem_of_mem_lines hline (hchars ▸ hc)

/-- Its fields with the marks between them state it again. -/
theorem ofChars?_of_mem_kept {visit : Visit} {finding : Finding} (h : finding ∈ visit.kept) :
    Finding.ofChars? finding.chars = some finding := by
  obtain ⟨line, _, hchars, hparse, _⟩ := exists_line_of_mem_kept h
  rw [← hchars]
  exact hparse

end Visit

/-! ## Section 2: Painted lines -/

namespace Report.Painted

/-- The painted fields of a finding. -/
theorem ofFinding_eq (theme : Theme) (finding : Finding) :
    ofFinding theme finding =
      { line := theme.paint .line finding.line
        column := theme.paint .column finding.column
        code := theme.paint .code finding.code
        description := theme.paint .description finding.description
        file := theme.paint .file finding.file
        header := theme.paint .header "" } := rfl

/-- The painted fields of a heading that are shown. -/
theorem heading_ofHeading (theme : Theme) (file header : String) :
    (ofHeading theme file header).heading
      = theme.paint .header header ++ ": " ++ theme.paint .file file := rfl

theorem toList_flat (p : Painted) :
    p.flat.toList = p.file.toList ++ ':' :: (p.line.toList ++ ':' :: (p.column.toList
      ++ ':' :: ' ' :: (p.code.toList ++ ' ' :: p.description.toList))) := by
  simp [flat]

theorem toList_grouped (p : Painted) :
    p.grouped.toList = '\t' :: (p.code.toList ++ ' ' :: '@' :: ' ' :: (p.line.toList
      ++ ':' :: (p.column.toList ++ ' ' :: '-' :: ' ' :: p.description.toList))) := by
  simp [grouped]

/-- Without emphasis the standard layout shows the fields with the marks between them. -/
theorem flat_off (finding : Finding) :
    (ofFinding .off finding).flat = String.ofList finding.chars := by
  -- The theme `off` paints every part as it is.
  rw [← String.toList_inj, toList_flat, String.toList_ofList, ofFinding_eq]
  rfl

/-- Without emphasis a finding is written as the line that stated it. -/
theorem flat_of_parse? {line : String} {finding : Finding} (hline : '\n' ∉ line.toList)
    (h : Finding.parse? line = some finding) : (ofFinding .off finding).flat = line := by
  rw [flat_off]
  exact (Finding.parse?_eq_some hline h).1.symm

end Report.Painted

end ChangeLint
