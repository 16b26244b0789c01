import ChangeLint.Proofs.Report.Sections

/-! # Files whose names hold blanks

A listing gives a name as a whole line, so that a name may hold blanks.  A line of a linter's
report ends the name at the first blank.  So the two agree about a name exactly if it is *solid*,
that is, if it holds no blank; what a linter says about a file of any other name is lost.

* `Entry.lineIn` is the line in which a linter tells an entry of a file.
* `Entry.isSolid_iff` says for which files this line is understood.
* `runWith_keeps_iff_isSolid` says what becomes of such a line in a run, and
  `runWith_keeps_nothing_of_blank` is a run in which one is lost. -/

namespace ChangeLint

open Report (Sink Style)

/-! ## Section 1: Lines about a file -/

/-- Is there no blank in the text? -/
def Text.isSolid (s : String) : Bool := s.toList.all (!isBlank ·)

theorem Text.isSolid_iff {s : String} :
    isSolid s = true ↔ ∀ c ∈ s.toList, isBlank c = false := by
  simp [isSolid]

namespace Entry

/-- The fields are those that a linter prints: digits for line and column, a word for the code,
and a description that stays in its line. -/
structure Told (entry : Entry) : Prop where
  line_ne_nil : entry.line.toList ≠ []
  line : ∀ c ∈ entry.line.toList, Text.isDecimal c = true
  column_ne_nil : entry.column.toList ≠ []
  column : ∀ c ∈ entry.column.toList, Text.isDecimal c = true
  code : ∀ c ∈ entry.code.toList, Text.isWordChar c = true
  description : '\n' ∉ entry.description.toList

/-- The finding of an entry in a file. -/
def inFile (entry : Entry) (file : String) : Finding :=
  ⟨file, entry.line, entry.column, entry.code, entry.description⟩

/-- The line that tells an entry of a file: `file:line:column: code description`. -/
def lineIn (entry : Entry) (file : String) : String :=
  file ++ ":" ++ entry.line ++ ":" ++ entry.column ++ ": " ++ entry.code ++ " "
    ++ entry.description

theorem toList_lineIn (entry : Entry) (file : String) :
    (entry.lineIn file).toList = (entry.inFile file).chars := by
  simp [lineIn, inFile, Finding.chars]

/-- A line about a file with a solid name states the finding. -/
theorem parse?_lineIn {entry : Entry} {file : String} (h : entry.Told) (hfile : file ≠ "")
    (hsolid : Text.isSolid file = true) :
    Finding.parse? (entry.lineIn file) = some (entry.inFile file) := by
  have hform : (entry.inFile file).WellFormed := {
    file := Text.isSolid_iff.mp hsolid
    line := h.line
    column := h.column
    code := h.code
    description := h.description
    file_ne_nil := fun hnil => hfile (String.toList_eq_nil_iff.mp hnil)
    line_ne_nil := h.line_ne_nil
    column_ne_nil := h.column_ne_nil }
  -- The line is the finding and nothing behind it.
  apply Finding.ofChars?_of_states
  refine ⟨hform, [], ?_, by simp⟩
  rw [toList_lineIn, List.append_nil]

/-- If a line about a file states the entry, in whatever file, it states it in this file, and so
the name of the file is solid. -/
theorem isSolid_of_parse? {entry : Entry} {file : String} {finding : Finding}
    (hline : '\n' ∉ (entry.lineIn file).toList)
    (hparse : Finding.parse? (entry.lineIn file) = some finding)
    (hentry : finding.entry = entry) : Text.isSolid file = true := by
  obtain ⟨hchars, hsound⟩ := Finding.ofChars?_eq_some hline hparse
  rw [toList_lineIn] at hchars
  -- Behind the name stand the same fields, and so the names are the same.
  subst hentry
  have hname : file.toList = finding.file.toList := List.append_cancel_right hchars
  rw [Text.isSolid_iff, hname]
  exact hsound.file

/-- A line about a file states what it tells exactly if the name of the file is solid. -/
theorem isSolid_iff {entry : Entry} {file : String} (h : entry.Told) (hfile : file ≠ "")
    (hline : '\n' ∉ (entry.lineIn file).toList) :
    (∃ finding, Finding.parse? (entry.lineIn file) = some finding ∧ finding.entry = entry)
      ↔ Text.isSolid file = true := by
  constructor
  · rintro ⟨finding, hparse, hentry⟩
    exact isSolid_of_parse? hline hparse hentry
  · intro hsolid
    exact ⟨entry.inFile file, parse?_lineIn h hfile hsolid, rfl⟩

end Entry

/-! ## Section 2: Lines in a report -/

namespace Report.Style

/-- The line written for a finding. -/
def findingLine (style : Style) (finding : Finding) : String :=
  match style.layout with
  | .standard => standardLine style.theme finding
  | .grouped => groupedLine style.theme finding

/-- The block of a file has the line of each of its findings. -/
theorem findingLine_mem_block (style : Style) (file : String) {findings : List Finding}
    {finding : Finding} (h : finding ∈ findings) :
    style.findingLine finding ∈ style.block file findings := by
  obtain ⟨theme, layout⟩ := style
  cases layout with
  | standard => exact List.mem_map_of_mem h
  | grouped =>
    have hne : findings ≠ [] := List.ne_nil_of_mem h
    unfold block
    rw [if_neg hne]
    exact List.mem_cons_of_mem _ (List.mem_map_of_mem h)

/-- The block of each visit stands in the report. -/
theorem exists_report_eq_of_mem (style : Style) {visits : List Visit} {visit : Visit}
    (h : visit ∈ visits) :
    ∃ before behind, style.report visits
      = before ++ (bytesOf (style.block visit.file visit.kept) ++ behind) := by
  -- The blocks before and behind are those of the visits before and after this one.
  obtain ⟨front, back, rfl⟩ := List.append_of_mem h
  refine ⟨style.report front, style.report back, ?_⟩
  unfold report
  rw [List.flatMap_append, List.flatMap_cons]

end Report.Style

theorem Visit.mem_kept_of_lineIn {visit : Visit} {entry : Entry} (h : entry.Told)
    (hfile : visit.file ≠ "") (hsolid : Text.isSolid visit.file = true)
    (hmem : entry.line ∈ visit.lines.toList)
    (hline : entry.lineIn visit.file ∈ Text.lines visit.report) :
    entry.inFile visit.file ∈ visit.kept := by
  refine List.mem_filterMap.mpr ⟨_, hline, ?_⟩
  -- The line is understood, and it is about a changed line.
  rw [Entry.parse?_lineIn h hfile hsolid]
  exact Option.filter_eq_some_iff.mpr ⟨rfl, decide_eq_true hmem⟩

/-! ## Section 3: Runs -/

namespace Engine

/-- In a run that succeeds, let the linter's report on a visited file have the line that tells an
entry of this file, on a changed line.  This line is understood exactly if the name of the file
is solid.  If it is, the entry is kept as one of this file, its line is written in the block of
the file, and the run is not clean. -/
theorem runWith_keeps_iff_isSolid (engine : Engine W) (providers : List (Vcs.Provider W))
    (world : W) (sink : Sink) {clean : Bool}
    (hok : ((engine.runWith providers).run ⟨world, sink⟩).answer = .ok clean) :
    ∃ calls visits after, Conducts engine providers world calls visits (.ok clean) after ∧
      ∀ visit ∈ visits, ∀ entry : Entry, visit.file ≠ "" → entry.Told →
        entry.line ∈ visit.lines.toList → entry.lineIn visit.file ∈ Text.lines visit.report →
        ((∃ finding, Finding.parse? (entry.lineIn visit.file) = some finding ∧
            finding.entry = entry) ↔ Text.isSolid visit.file = true) ∧
        (Text.isSolid visit.file = true →
          entry.inFile visit.file ∈ visit.kept ∧ clean = false ∧
          engine.style.findingLine (entry.inFile visit.file)
            ∈ engine.style.block visit.file visit.kept ∧
          ∃ before behind,
            ((engine.runWith providers).run ⟨world, sink⟩).world.sink.written
              = sink.written ++ (before
                ++ (Style.bytesOf (engine.style.block visit.file visit.kept) ++ behind))) := by
  obtain ⟨calls, visits, after, hconducts, hrun⟩ := exists_conducts_of_ok hok
  refine ⟨calls, visits, after, hconducts, ?_⟩
  intro visit hvisit entry hfile htold hmem hline
  refine ⟨Entry.isSolid_iff htold hfile (Text.not_newline_of_mem_lines hline), ?_⟩
  intro hsolid
  have hkept := Visit.mem_kept_of_lineIn htold hfile hsolid hmem hline
  -- One finding on one visit is enough for the run not to be clean.
  have hclean : clean = false := by
    rw [hconducts.clean_eq, decide_eq_false_iff_not]
    exact fun hnone => List.ne_nil_of_mem hkept (hnone visit hvisit)
  obtain ⟨before, behind, hreport⟩ := engine.style.exists_report_eq_of_mem hvisit
  refine ⟨hkept, hclean, engine.style.findingLine_mem_block visit.file hkept, before, behind, ?_⟩
  rw [hrun, Sink.written_after, hreport]

/-! A linter that has something to say about the changed line of the one file that is listed. -/

namespace Naming

def entry : Entry := ⟨"2", "1", "E501", "too long"⟩

theorem told : entry.Told where
  line_ne_nil := by decide +kernel
  line := List.all_eq_true.mp (by decide +kernel)
  column_ne_nil := by decide +kernel
  column := List.all_eq_true.mp (by decide +kernel)
  code := List.all_eq_true.mp (by decide +kernel)
  description := by decide +kernel

def provider (file : String) : Vcs.Provider Unit where
  name := "git"
  isUsed := pure true
  changedFiles := pure [file]
  changedLines _ := pure (.ofList ["2"])

def engine (report : String) : Engine Unit where
  vcs := none
  dir := "work"
  style := ⟨.off, .grouped⟩
  lint _ := pure report

/-- The visit of the file. -/
def visit (file report : String) : Visit := ⟨file, .ofList ["2"], report⟩

def run (file report : String) : Reply (Session Unit) (Except Error Bool) :=
  ((engine report).runWith [provider file]).run ⟨(), .unlimited⟩

theorem conducts (file report : String) (clean : Bool)
    (h : decide (∀ v ∈ [visit file report], v.kept = []) = clean) :
    ∃ calls, Conducts (engine report) [provider file] () calls [visit file report]
      (.ok clean) () := by
  rw [← h]
  exact ⟨_, .finished (.located (.inEffect rfl [])) rfl (.visited rfl rfl (.done ()))⟩

end Naming

/-- A name with colons and digits, which is solid. -/
theorem runWith_keeps_iff_isSolid_colons :
    let file := "a:1:2:b.py"
    let report := "a:1:2:b.py:2:1: E501 too long\n"
    (Naming.run file report).answer = .ok false ∧
      Naming.entry.inFile file ∈ (Naming.visit file report).kept := by
  intro file report
  obtain ⟨_, hconducts⟩ := Naming.conducts file report false (by decide +kernel)
  obtain ⟨_, hrun⟩ := run_of_conducts hconducts
  have hok : (Naming.run file report).answer = .ok false := by
    unfold Naming.run
    rw [hrun]
  obtain ⟨_, visits, _, hvisits, hkeeps⟩ := runWith_keeps_iff_isSolid (Naming.engine report)
    [Naming.provider file] () .unlimited hok
  -- A run has one course only, so that its visits are the ones named here.
  have hmem : Naming.visit file report ∈ visits := by
    rw [hvisits.visits_unique hconducts]
    exact List.mem_singleton_self _
  obtain ⟨_, hsolid⟩ := hkeeps (Naming.visit file report) hmem Naming.entry
    (by decide +kernel) Naming.told (by decide +kernel) (by decide +kernel)
  exact ⟨hok, (hsolid (by decide +kernel)).1⟩

/-- A name with a space: the report tells an entry of the file on a changed line, and still the
run finds nothing, writes nothing and is clean. -/
theorem runWith_keeps_nothing_of_blank :
    let file := "my file.py"
    let report := "my file.py:2:1: E501 too long\n"
    Naming.entry.Told ∧ Naming.entry.line ∈ (Naming.visit file report).lines.toList ∧
      Naming.entry.lineIn file ∈ Text.lines (Naming.visit file report).report ∧
      (∃ calls, Conducts (Naming.engine report) [Naming.provider file] () calls
        [Naming.visit file report] (.ok true) ()) ∧
      (Naming.visit file report).kept = [] ∧ (Naming.run file report).answer = .ok true ∧
      (Naming.run file report).world.sink.written = [] := by
  intro file report
  have hkept : (Naming.visit file report).kept = [] := by decide +kernel
  obtain ⟨_, hconducts⟩ := Naming.conducts file report true (by decide +kernel)
  obtain ⟨_, hrun⟩ := run_of_conducts hconducts
  have hreport : Style.report ⟨.off, .grouped⟩ [Naming.visit file report] = [] := by
    decide +kernel
  refine ⟨Naming.told, by decide +kernel, by decide +kernel, ⟨_, hconducts⟩, hkept, ?_, ?_⟩
  · unfold Naming.run
    rw [hrun]
  · unfold Naming.run
    rw [hrun, Sink.written_after]
    exact hreport

end Engine

end ChangeLint
