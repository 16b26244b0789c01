import ChangeLint.Proofs.Engine.Success
import ChangeLint.Proofs.Report.Fields
import ChangeLint.Proofs.Report.Rows

/-! # The standard layout repeats the linter

Without emphasis the standard layout writes each finding as the line that stated it.  So the
report of a run is made of lines of the linter's reports, and a report that is linted again in
place of a linter's one stays as it is.

* `Visit.keptLines` are the lines of a linter's report that count.
* `Visit.map_flat_kept` says that these are what is written for the findings.
* `Visit.keptText_again` says that nothing more is taken away from them. -/

namespace ChangeLint

open Report (Sink Style Painted)

/-! ## Section 1: Kept lines -/

namespace Visit

/-- Does the line state a finding on a changed line? -/
def keeps (visit : Visit) (line : String) : Bool :=
  (Finding.parse? line).any fun finding => decide (finding.line ∈ visit.lines.toList)

/-- The lines of the report that state a finding on a changed line. -/
def keptLines (visit : Visit) : List String := (Text.lines visit.report).filter visit.keeps

/-- The text of the kept lines of some visits. -/
def keptText (visits : List Visit) : String :=
  String.join ((visits.flatMap keptLines).map Report.ended)

/-- Without emphasis the findings are written as the lines that stated them. -/
theorem map_flat_kept (visit : Visit) :
    visit.kept.map (fun finding => (Painted.ofFinding .off finding).flat) = visit.keptLines := by
  unfold kept keptLines
  have hlines : ∀ line ∈ Text.lines visit.report, '\n' ∉ line.toList :=
    fun line hline => Text.not_newline_of_mem_lines hline
  -- Only that no line holds a line feed is known of the lines from here on.
  generalize Text.lines visit.report = lines at hlines
  induction lines with
  | nil => rfl
  | cons line rest ih =>
    have hrest := ih fun other hother => hlines other (List.mem_cons_of_mem line hother)
    -- A line that states no finding counts as little as one that states it elsewhere.
    cases hparse : Finding.parse? line with
    | none =>
      have hkeeps : visit.keeps line = false := by
        simp [keeps, hparse]
      rw [List.filter_cons_of_neg (by simp [hkeeps]), List.filterMap_cons_none (by simp [hparse])]
      exact hrest
    | some finding =>
      -- A finding is written back as its line, whether it counts or not.
      have hflat := Painted.flat_of_parse? (hlines line (List.mem_cons_self ..)) hparse
      by_cases hmem : finding.line ∈ visit.lines.toList
      · have hkeeps : visit.keeps line = true := by
          simp [keeps, hparse, hmem]
        have hfound : ((Finding.parse? line).filter fun finding =>
            decide (finding.line ∈ visit.lines.toList)) = some finding := by
          simp [hparse, hmem]
        rw [List.filter_cons_of_pos hkeeps, List.filterMap_cons, hfound, List.map_cons, hflat,
          hrest]
      · have hkeeps : visit.keeps line = false := by
          simp [keeps, hparse, hmem]
        rw [List.filter_cons_of_neg (by simp [hkeeps]),
          List.filterMap_cons_none (by simp [hparse, hmem])]
        exact hrest

/-- The rows of a report in the standard layout without emphasis. -/
theorem reportRows_standard (visits : List Visit) :
    Style.reportRows ⟨.off, .standard⟩ visits
      = (visits.flatMap keptLines).map String.toList := by
  rw [List.map_flatMap]
  unfold Style.reportRows
  congr 1
  funext visit
  rw [← map_flat_kept]
  rfl

/-- The text of the kept lines, character by character. -/
theorem toList_keptText (visits : List Visit) :
    (keptText visits).toList = Text.unlines ((visits.flatMap keptLines).map String.toList) := by
  rw [keptText, String.toList_join, Text.unlines, List.flatMap_map, List.flatMap_map]
  congr 1
  funext row
  simp [Report.ended]

/-- The bytes of a report are those of the kept lines, each with its end. -/
theorem report_standard (visits : List Visit) :
    Style.report ⟨.off, .standard⟩ visits = Text.Utf8.bytes (keptText visits) := by
  rw [Style.report_eq_encode, reportRows_standard, Text.Utf8.bytes, toList_keptText]

/-! ## Section 2: Kept lines as a report -/

/-- A report without carriage returns has none in its lines. -/
theorem not_return_of_mem_keptLines {visit : Visit} (h : '\r' ∉ visit.report.toList)
    {row : String} (hrow : row ∈ visit.keptLines) : '\r' ∉ row.toList := by
  intro hmem
  exact h (Text.mem_of_mem_lines (List.mem_filter.mp hrow).1 hmem)

/-- Where the lines are those that were kept already, all of them are kept. -/
theorem keptLines_of_lines {visit other : Visit} (hlines : other.lines = visit.lines)
    (hreport : Text.lines other.report = visit.keptLines) :
    other.keptLines = visit.keptLines := by
  -- Which lines count depends on the line and on the changed lines only.
  have hkeeps : ∀ row ∈ visit.keptLines, other.keeps row = true := by
    intro row hrow
    have hkept : visit.keeps row = true := (List.mem_filter.mp hrow).2
    unfold keeps at hkept ⊢
    rw [hlines]
    exact hkept
  have hother : other.keptLines = (Text.lines other.report).filter other.keeps := rfl
  rw [hother, hreport]
  exact List.filter_eq_self.mpr hkeeps

/-- The lines that were kept of a report without carriage returns are all kept again. -/
theorem keptText_again {visit : Visit} (h : '\r' ∉ visit.report.toList) :
    keptText [⟨visit.file, visit.lines, keptText [visit]⟩] = keptText [visit] := by
  have hfeed : ∀ row ∈ visit.keptLines, '\n' ∉ row.toList :=
    fun row hrow => Text.not_newline_of_mem_lines (List.mem_filter.mp hrow).1
  have htext : keptText [visit]
      = String.ofList (Text.unlines (visit.keptLines.map String.toList)) := by
    rw [← String.toList_inj, toList_keptText, List.flatMap_singleton, String.toList_ofList]
  -- Read again, the text falls into the lines that it was made of.
  have hlines : Text.lines (keptText [visit]) = visit.keptLines := by
    rw [htext]
    exact Text.lines_of_unlines hfeed fun row hrow => not_return_of_mem_keptLines h hrow
  have hagain : keptLines ⟨visit.file, visit.lines, keptText [visit]⟩ = visit.keptLines :=
    keptLines_of_lines rfl hlines
  rw [keptText, List.flatMap_singleton, hagain, keptText, List.flatMap_singleton]

end Visit

/-! ## Section 3: Whole runs -/

namespace Engine

/-- A line that states a finding is what the standard layout writes for it without emphasis, and
it states the same finding again.  So a run in that layout that succeeds adds to its sink the
lines of the linter's reports that state a finding on a changed line, as they are and each with a
line feed behind it.  If one file is visited, and the linter's report on it has no carriage
return, a run over what was written in place of that report writes the same. -/
theorem runWith_standard_verbatim (engine : Engine W) (providers : List (Vcs.Provider W))
    (world : W) (sink : Sink) {clean : Bool} (hstyle : engine.style = ⟨.off, .standard⟩)
    (hok : ((engine.runWith providers).run ⟨world, sink⟩).answer = .ok clean) :
    (∀ (line : String) (finding : Finding), '\n' ∉ line.toList →
      Finding.parse? line = some finding →
        (Painted.ofFinding .off finding).flat = line ∧
          Finding.parse? (Painted.ofFinding .off finding).flat = some finding) ∧
    ∃ calls visits after, Conducts engine providers world calls visits (.ok clean) after ∧
      ((engine.runWith providers).run ⟨world, sink⟩).world.sink.written
        = sink.written ++ Text.Utf8.bytes (Visit.keptText visits) ∧
      ∀ visit, visits = [visit] → '\r' ∉ visit.report.toList →
        ∀ (V : Type) (again : Engine V) (others : List (Vcs.Provider V)) (start last : V)
            (questions : List Call) (clear : Bool), again.style = engine.style →
          Conducts again others start questions
            [⟨visit.file, visit.lines, Visit.keptText [visit]⟩] (.ok clear) last →
          ((again.runWith others).run ⟨start, .unlimited⟩).world.sink.written
            = Text.Utf8.bytes (Visit.keptText [visit]) := by
  constructor
  · intro line finding hline hparse
    have hflat := Painted.flat_of_parse? hline hparse
    rw [hflat]
    exact ⟨rfl, hparse⟩
  · obtain ⟨calls, visits, after, hconducts, hrun⟩ := exists_conducts_of_ok hok
    refine ⟨calls, visits, after, hconducts, ?_, ?_⟩
    · rw [hrun, hstyle, Visit.report_standard]
      rfl
    · intro visit _ hreturn V again others start last questions clear hsame hagain
      -- The second run visits the same file with the kept lines as its report, and keeps all of
      -- them.
      obtain ⟨events, hsecond⟩ := run_of_conducts hagain
      rw [hsecond, hsame, hstyle, Visit.report_standard, Visit.keptText_again hreturn,
        Sink.written_after]
      exact List.nil_append _

/-! A linter whose report has a finding without code, one whose file and description look like
places, and noise; a second linter reports what was kept of it. -/

namespace Rereading

def provider : Vcs.Provider Unit where
  name := "git"
  isUsed := pure true
  changedFiles := pure ["a b.py"]
  changedLines _ := pure (.ofList ["9"])

def engine (report : String) : Engine Unit where
  vcs := none
  dir := "work"
  style := ⟨.off, .standard⟩
  lint _ := pure report

def visit : Visit :=
  ⟨"a b.py", .ofList ["9"], "a.py:9:1:  odd\nnoise\na.py:8:1: W1 y\nb:2.py:9:1: E a @ 9:9 - b"⟩

def kept : String := "a.py:9:1:  odd\nb:2.py:9:1: E a @ 9:9 - b\n"

/-- A run with either linter visits the file. -/
theorem conducts (report : String) (clean : Bool)
    (h : decide (∀ v ∈ [(⟨"a b.py", .ofList ["9"], report⟩ : Visit)], v.kept = []) = clean) :
    ∃ calls, Conducts (engine report) [provider] () calls
      [⟨"a b.py", .ofList ["9"], report⟩] (.ok clean) () := by
  rw [← h]
  exact ⟨_, .finished (.located (.inEffect rfl [])) rfl (.visited rfl rfl (.done ()))⟩

end Rereading

theorem runWith_standard_verbatim_reread :
    let first := ((Rereading.engine Rereading.visit.report).runWith [Rereading.provider]).run
      ⟨(), .unlimited⟩
    let second := ((Rereading.engine Rereading.kept).runWith [Rereading.provider]).run
      ⟨(), .unlimited⟩
    first.world.sink.written = Text.Utf8.bytes Rereading.kept ∧
      second.world.sink.written = first.world.sink.written := by
  have hkept : Visit.keptText [Rereading.visit] = Rereading.kept := by decide +kernel
  have hreturn : '\r' ∉ Rereading.visit.report.toList := by decide +kernel
  obtain ⟨_, hfirst⟩ := Rereading.conducts Rereading.visit.report false (by decide +kernel)
  obtain ⟨_, hsecond⟩ := Rereading.conducts Rereading.kept false (by decide +kernel)
  obtain ⟨_, hrun⟩ := run_of_conducts hfirst
  have hok : (((Rereading.engine Rereading.visit.report).runWith [Rereading.provider]).run
      ⟨(), .unlimited⟩).answer = .ok false := by
    rw [hrun]
  obtain ⟨_, _, visits, _, hconducts, hwritten, hagain⟩ :=
    runWith_standard_verbatim (Rereading.engine Rereading.visit.report) [Rereading.provider] ()
      .unlimited rfl hok
  -- A run has one course only.
  have hvisits : visits = [Rereading.visit] := hconducts.visits_unique hfirst
  have hlater := hagain Rereading.visit hvisits hreturn Unit (Rereading.engine Rereading.kept)
    [Rereading.provider] () () _ false rfl (by rw [hkept]; exact hsecond)
  rw [hvisits, hkept] at hwritten
  rw [hkept] at hlater
  exact ⟨hwritten, hlater.trans hwritten.symm⟩

end Engine

end ChangeLint
