import ChangeLint.Proofs.Engine.Visits
import ChangeLint.Proofs.Text.Encoding
import ChangeLint.Proofs.Text.Reading

/-! # The text of a report

The bytes of a report are those of a text, and this text is a list of *rows*, each with a line
feed behind it.

* `Style.rows` are the rows of a file, and `Style.reportRows` those of all files of a run.
* `text_of_report` reads the text back off a sink. -/

namespace ChangeLint.Report

/-! ## Section 1: Rows -/

namespace Style

/-- The lines that a file adds to the report, without their ends. -/
def rows (style : Style) (file : String) (findings : List Finding) : List String :=
  match style.layout with
  | .standard => findings.map fun finding => (Painted.ofFinding style.theme finding).flat
  | .grouped =>
    if findings = [] then []
    else
      (Painted.ofHeading style.theme file headingText).heading
        :: findings.map fun finding => (Painted.ofFinding style.theme finding).grouped

/-- The lines of a block are its rows with their ends. -/
theorem block_eq_map_rows (style : Style) (file : String) (findings : List Finding) :
    style.block file findings = (style.rows file findings).map ended := by
  obtain ⟨theme, layout⟩ := style
  cases layout with
  | standard =>
    show findings.map (standardLine theme) = (findings.map _).map ended
    rw [List.map_map]
    rfl
  | grouped =>
    unfold block rows
    -- Without findings there is no heading either.
    by_cases h : findings = []
    · simp [h]
    · simp only [if_neg h, List.map_cons, List.map_map]
      rfl

/-- The rows of a run, in the order of its visits. -/
def reportRows (style : Style) (visits : List Visit) : List (List Char) :=
  visits.flatMap fun visit => (style.rows visit.file visit.kept).map String.toList

theorem reportRows_cons (style : Style) (visit : Visit) (visits : List Visit) :
    style.reportRows (visit :: visits)
      = (style.rows visit.file visit.kept).map String.toList ++ style.reportRows visits :=
  List.flatMap_cons

/-! ## Section 2: Texts -/

/-- Rows with their ends are the bytes of rows that are written as lines. -/
theorem bytesOf_map_ended (rows : List String) :
    bytesOf (rows.map ended) = Text.Utf8.encode (Text.unlines (rows.map String.toList)) := by
  induction rows with
  | nil => rfl
  | cons row rows ih =>
    have hbytes : bytesOf ((row :: rows).map ended)
        = Text.Utf8.bytes (ended row) ++ bytesOf (rows.map ended) := List.flatMap_cons
    have hlines : Text.unlines ((row :: rows).map String.toList)
        = (row.toList ++ ['\n']) ++ Text.unlines (rows.map String.toList) := List.flatMap_cons
    -- The end of a row is the line feed that is put behind it.
    have hrow : (ended row).toList = row.toList ++ ['\n'] := by
      simp [ended]
    rw [hbytes, ih, hlines, Text.Utf8.encode_append, Text.Utf8.bytes, hrow]

/-- The bytes of a report are those of its rows, each with its end. -/
theorem report_eq_encode (style : Style) (visits : List Visit) :
    style.report visits = Text.Utf8.encode (Text.unlines (style.reportRows visits)) := by
  -- By induction on the visits: encoding is one piece after the other, and so are the blocks.
  induction visits with
  | nil => rfl
  | cons visit visits ih =>
    have hreport : style.report (visit :: visits)
        = bytesOf (style.block visit.file visit.kept) ++ style.report visits :=
      List.flatMap_cons
    have hrows : Text.unlines (style.reportRows (visit :: visits))
        = Text.unlines ((style.rows visit.file visit.kept).map String.toList)
          ++ Text.unlines (style.reportRows visits) := by
      rw [reportRows_cons]
      exact List.flatMap_append
    rw [hreport, ih, block_eq_map_rows, bytesOf_map_ended, hrows, Text.Utf8.encode_append]

end Style

/-- The text on a sink that holds a report and nothing else. -/
theorem Sink.text_of_report {sink : Sink} {style : Style} {visits : List Visit}
    (h : sink.written = style.report visits) :
    sink.text = String.ofList (Text.unlines (style.reportRows visits)) := by
  unfold Sink.text Text.Utf8.lossyText
  rw [h, Style.report_eq_encode, Text.Utf8.lossy_encode]

end ChangeLint.Report
