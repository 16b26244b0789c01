import ChangeLint.Proofs.Engine.Success
import ChangeLint.Proofs.Report.Fields
import ChangeLint.Proofs.Report.Rows

/-! # Reading reports back

A report without emphasis says what was found: the grouped layout file by file, the standard
layout in one list.  Both are read back here, line by line.

* `Entry` is what both layouts tell about a finding, and `Visit.summary` what a grouped report is
  about.
* `readGrouped?` and `readHeading?` read a line, and `sectionsOf` reads lines from the last one on.
* `sections_report` and `flatEntries_report` are the round trips of whole reports.
* `runWith_grouped_faithful` draws the conclusions for runs. -/

namespace ChangeLint

open Report (Sink Style Painted)

/-! ## Section 1: What a report is about -/

/-- What both layouts tell about a finding. -/
structure Entry where
  line : String
  column : String
  code : String
  description : String
  deriving DecidableEq, Repr

/-- The finding without the file that the linter named. -/
def Finding.entry (finding : Finding) : Entry :=
  ⟨finding.line, finding.column, finding.code, finding.description⟩

namespace Visit

def entries (visit : Visit) : List Entry := visit.kept.map Finding.entry

/-- The files in which something was found, each with what was found there. -/
def summary (visits : List Visit) : List (String × List Entry) :=
  (visits.filter fun visit => !visit.kept.isEmpty).map fun visit => (visit.file, visit.entries)

theorem summary_cons_of_nil {visit : Visit} (h : visit.kept = []) (visits : List Visit) :
    summary (visit :: visits) = summary visits := by
  simp [summary, h]

theorem summary_cons_of_ne_nil {visit : Visit} (h : visit.kept ≠ []) (visits : List Visit) :
    summary (visit :: visits) = (visit.file, visit.entries) :: summary visits := by
  simp [summary, h]

/-- Files in which nothing was found add nothing to what was found. -/
theorem flatMap_summary (visits : List Visit) :
    (summary visits).flatMap Prod.snd = visits.flatMap entries := by
  induction visits with
  | nil => rfl
  | cons visit visits ih =>
    -- A file in which nothing was found is not in the summary, but has no entries either.
    by_cases h : visit.kept = []
    · have hentries : visit.entries = [] := by
        rw [entries, h]
        rfl
      rw [summary_cons_of_nil h, List.flatMap_cons, hentries, ih]
      rfl
    · rw [summary_cons_of_ne_nil h, List.flatMap_cons, List.flatMap_cons, ih]

end Visit

namespace Report

/-! ## Section 2: Reading a line -/

/-- What a line of the grouped layout tells about a finding. -/
def readGrouped? (cs : List Char) : Option Entry := do
  let cs ← Text.stripHead? ['\t'] cs
  let (code, cs) ← Text.splitAtFirst? (· == ' ') cs
  let cs ← Text.stripHead? ['@', ' '] cs
  let (line, cs) ← Text.splitAtFirst? (· == ':') cs
  let (column, cs) ← Text.splitAtFirst? (· == ' ') cs
  let description ← Text.stripHead? ['-', ' '] cs
  some ⟨String.ofList line, String.ofList column, String.ofList code, String.ofList description⟩

/-- The file that a heading names. -/
def readHeading? (cs : List Char) : Option String :=
  (Text.stripHead? (headingText ++ ": ").toList cs).map String.ofList

/-- A field whose characters are of a class ends at a mark that is not. -/
theorem splitAtFirst?_of_class {p : Char → Bool} {field : List Char} {mark : Char}
    (h : ∀ c ∈ field, p c = true) (hmark : p mark = false) (cs : List Char) :
    Text.splitAtFirst? (· == mark) (field ++ mark :: cs) = some (field, cs) := by
  -- The mark is not of the class, so it stands nowhere in the field.
  have hfree : mark ∉ field := by
    intro hmem
    have htrue := h mark hmem
    rw [hmark] at htrue
    cases htrue
  exact Text.splitAtFirst?_append_cons (Text.beq_of_not_mem hfree) (beq_self_eq_true mark) cs

/-- A line of the grouped layout is read back: no field has the mark that ends it. -/
theorem readGrouped?_grouped {finding : Finding} (h : finding.Sound) :
    readGrouped? (Painted.ofFinding .off finding).grouped.toList = some finding.entry := by
  have hcode := splitAtFirst?_of_class h.code (show Text.isWordChar ' ' = false by decide)
  have hline := splitAtFirst?_of_class h.line (show Text.isDecimal ':' = false by decide)
  have hcolumn := splitAtFirst?_of_class h.column (show Text.isDecimal ' ' = false by decide)
  -- The fields are read in the order in which they stand in the line.
  rw [Painted.toList_grouped, Painted.ofFinding_eq]
  simp only [Theme.paint_off, readGrouped?, Text.stripHead?, if_true, Option.bind_eq_bind,
    Option.bind_some, hcode, hline, hcolumn, String.ofList_toList]
  rfl

theorem toList_heading (file : String) :
    (Painted.ofHeading .off file headingText).heading.toList
      = (headingText ++ ": ").toList ++ file.toList := by
  rw [Painted.heading_ofHeading, Theme.paint_off, Theme.paint_off, String.toList_append]

/-- A heading is read back. -/
theorem readHeading?_heading (file : String) :
    readHeading? (Painted.ofHeading .off file headingText).heading.toList = some file := by
  rw [readHeading?, toList_heading, Text.stripHead?_eq_some_iff.mpr rfl, Option.map_some,
    String.ofList_toList]

/-- A line about a finding is no heading. -/
theorem readHeading?_grouped (painted : Painted) : readHeading? painted.grouped.toList = none := by
  rw [Painted.toList_grouped]
  rfl

/-! ## Section 3: Reading a report -/

/-- Reads lines from the last one on.  The answer is what stands before the first heading, and one
section for each heading: its file and what stands under it. -/
def sectionsOf : List (List Char) → List Entry × List (String × List Entry)
  | [] => ([], [])
  | row :: rows =>
    let (entries, sections) := sectionsOf rows
    match readHeading? row with
    | some file => ([], (file, entries) :: sections)
    | none => ((readGrouped? row).toList ++ entries, sections)

/-- The sections of a text in the grouped layout. -/
def sections (text : String) : List (String × List Entry) :=
  (sectionsOf (Text.splitWhere (· == '\n') text.toList)).2

/-- The findings that a text in the standard layout tells of. -/
def flatEntries (text : String) : List Entry :=
  (Text.splitWhere (· == '\n') text.toList).filterMap fun row =>
    (Finding.ofChars? row).map Finding.entry

/-- A heading starts a section with what was read behind it. -/
theorem sectionsOf_heading (file : String) (rows : List (List Char)) :
    sectionsOf ((Painted.ofHeading .off file headingText).heading.toList :: rows)
      = ([], (file, (sectionsOf rows).1) :: (sectionsOf rows).2) := by
  rw [sectionsOf, readHeading?_heading]

/-- Lines about findings are read one after the other, in front of what is behind them. -/
theorem sectionsOf_grouped {findings : List Finding} (h : ∀ finding ∈ findings, finding.Sound)
    (rows : List (List Char)) :
    sectionsOf (findings.map (fun finding => (Painted.ofFinding .off finding).grouped.toList)
        ++ rows)
      = (findings.map Finding.entry ++ (sectionsOf rows).1, (sectionsOf rows).2) := by
  -- By induction on the findings; none of their lines is a heading.
  induction findings with
  | nil => rfl
  | cons finding findings ih =>
    have hrest := ih fun other hother => h other (List.mem_cons_of_mem finding hother)
    rw [List.map_cons, List.cons_append, sectionsOf, readHeading?_grouped, hrest,
      readGrouped?_grouped (h finding (List.mem_cons_self ..))]
    rfl

/-- The rows of a grouped report are read back, and nothing stands before the first heading. -/
theorem sectionsOf_reportRows (visits : List Visit) :
    sectionsOf (Style.reportRows ⟨.off, .grouped⟩ visits ++ [[]]) = ([], Visit.summary visits) := by
  -- By induction on the visits, since the rows behind are read before.
  induction visits with
  | nil => rfl
  | cons visit visits ih =>
    have hsound : ∀ finding ∈ visit.kept, finding.Sound :=
      fun finding hmem => Visit.sound_of_mem_kept hmem
    rw [Style.reportRows_cons, List.append_assoc]
    -- Without findings there is not even a heading.
    by_cases h : visit.kept = []
    · have hrows : Style.rows ⟨.off, .grouped⟩ visit.file visit.kept = [] := if_pos h
      rw [hrows, Visit.summary_cons_of_nil h]
      exact ih
    · have hrows : Style.rows ⟨.off, .grouped⟩ visit.file visit.kept
          = (Painted.ofHeading .off visit.file headingText).heading
            :: visit.kept.map fun finding => (Painted.ofFinding .off finding).grouped := if_neg h
      have hmap : (visit.kept.map fun finding => (Painted.ofFinding .off finding).grouped).map
          String.toList
          = visit.kept.map fun finding => (Painted.ofFinding .off finding).grouped.toList := by
        rw [List.map_map]
        rfl
      rw [hrows, List.map_cons, hmap, List.cons_append, sectionsOf_heading,
        sectionsOf_grouped hsound, ih, Visit.summary_cons_of_ne_nil h, List.append_nil]
      rfl

/-- No line about a finding holds a line feed. -/
theorem not_newline_grouped {finding : Finding} (h : finding.Sound) :
    '\n' ∉ (Painted.ofFinding .off finding).grouped.toList := by
  have hchars := h.not_newline
  simp only [Finding.chars, List.mem_append, List.mem_cons, not_or] at hchars
  obtain ⟨-, -, hline, -, hcolumn, -, -, hcode, -, hdescription⟩ := hchars
  rw [Painted.toList_grouped, Painted.ofFinding_eq]
  simp [hline, hcolumn, hcode, hdescription]

/-- No row holds a line feed, unless a file that is named in a heading does. -/
theorem not_newline_of_mem_rows {visit : Visit} (hfile : '\n' ∉ visit.file.toList)
    {row : String} (h : row ∈ Style.rows ⟨.off, .grouped⟩ visit.file visit.kept) :
    '\n' ∉ row.toList := by
  unfold Style.rows at h
  by_cases hempty : visit.kept = []
  · simp only [if_pos hempty] at h
    exact absurd h List.not_mem_nil
  · simp only [if_neg hempty] at h
    rcases List.mem_cons.mp h with rfl | hfinding
    -- The name of the file is the only thing in a heading that could have one.
    · rw [toList_heading, List.mem_append, not_or]
      exact ⟨by decide, hfile⟩
    · obtain ⟨finding, hmem, rfl⟩ := List.mem_map.mp hfinding
      exact not_newline_grouped (Visit.sound_of_mem_kept hmem)

/-- The sections of a grouped report are the files in which something was found. -/
theorem sections_report {visits : List Visit} (h : ∀ visit ∈ visits, '\n' ∉ visit.file.toList) :
    sections (String.ofList (Text.unlines (Style.reportRows ⟨.off, .grouped⟩ visits)))
      = Visit.summary visits := by
  have hrows : ∀ row ∈ Style.reportRows ⟨.off, .grouped⟩ visits, '\n' ∉ row := by
    intro row hrow
    obtain ⟨visit, hvisit, hmem⟩ := List.mem_flatMap.mp hrow
    obtain ⟨text, htext, rfl⟩ := List.mem_map.mp hmem
    exact not_newline_of_mem_rows (h visit hvisit) htext
  rw [sections, String.toList_ofList, Text.splitWhere_unlines hrows, sectionsOf_reportRows]

/-- The rows of a standard report are the findings of the visits, one after the other. -/
theorem reportRows_flat (visits : List Visit) :
    Style.reportRows ⟨.off, .standard⟩ visits
      = (visits.flatMap Visit.kept).map Finding.chars := by
  have hflat : String.toList ∘ (fun finding => (Painted.ofFinding .off finding).flat)
      = Finding.chars := by
    funext finding
    show (Painted.ofFinding .off finding).flat.toList = finding.chars
    rw [Painted.flat_off, String.toList_ofList]
  have hrows : (fun visit : Visit =>
      (Style.rows ⟨.off, .standard⟩ visit.file visit.kept).map String.toList)
      = fun visit => visit.kept.map Finding.chars := by
    funext visit
    unfold Style.rows
    rw [List.map_map, hflat]
  rw [List.map_flatMap, Style.reportRows, hrows]

/-- Findings that are written in a row each are read back. -/
theorem filterMap_entry {findings : List Finding}
    (h : ∀ finding ∈ findings, Finding.ofChars? finding.chars = some finding) :
    (findings.map Finding.chars).filterMap (fun row => (Finding.ofChars? row).map Finding.entry)
      = findings.map Finding.entry := by
  induction findings with
  | nil => rfl
  | cons finding findings ih =>
    have hrow : (Finding.ofChars? finding.chars).map Finding.entry = some finding.entry := by
      rw [h finding (List.mem_cons_self ..), Option.map_some]
    have hrest := ih fun other hother => h other (List.mem_cons_of_mem finding hother)
    rw [List.map_cons, List.filterMap_cons, hrow, hrest, List.map_cons]

/-- The findings of a standard report are those of the visits. -/
theorem flatEntries_report (visits : List Visit) :
    flatEntries (String.ofList (Text.unlines (Style.reportRows ⟨.off, .standard⟩ visits)))
      = visits.flatMap Visit.entries := by
  -- What is kept was parsed from a line, so it is parsed again from what is written.
  have hkept : ∀ finding ∈ visits.flatMap Visit.kept,
      finding.Sound ∧ Finding.ofChars? finding.chars = some finding := by
    intro finding hmem
    obtain ⟨visit, _, hfinding⟩ := List.mem_flatMap.mp hmem
    exact ⟨Visit.sound_of_mem_kept hfinding, Visit.ofChars?_of_mem_kept hfinding⟩
  have hrows : ∀ row ∈ Style.reportRows ⟨.off, .standard⟩ visits, '\n' ∉ row := by
    intro row hrow
    rw [reportRows_flat] at hrow
    obtain ⟨finding, hmem, rfl⟩ := List.mem_map.mp hrow
    exact (hkept finding hmem).1.not_newline
  have hread := filterMap_entry fun finding hmem => (hkept finding hmem).2
  rw [flatEntries, String.toList_ofList, Text.splitWhere_unlines hrows, reportRows_flat,
    List.filterMap_append, hread, List.map_flatMap]
  -- The last piece is what stands behind the last line feed, and that is nothing.
  exact List.append_nil _

end Report

/-! ## Section 4: Whole runs -/

namespace Engine

/-- A run that succeeds is clean exactly if its visits found nothing. -/
theorem Conducts.clean_eq {engine : Engine W} {providers : List (Vcs.Provider W)}
    {world after : W} {calls : List Call} {visits : List Visit} {clean : Bool}
    (h : Conducts engine providers world calls visits (.ok clean) after) :
    clean = decide (∀ visit ∈ visits, visit.kept = []) := by
  cases h with
  | finished selection listing checks => rfl

/-- What a run without emphasis writes to an empty sink, if it succeeds. -/
theorem exists_text_of_ok {engine : Engine W} {providers : List (Vcs.Provider W)} {world : W}
    {sink : Sink} {layout : Report.Layout} {clean : Bool} (hsink : sink.written = [])
    (h : (((engine.withStyle ⟨.off, layout⟩).runWith providers).run ⟨world, sink⟩).answer
      = .ok clean) :
    ∃ calls visits after, Conducts engine providers world calls visits (.ok clean) after ∧
      (((engine.withStyle ⟨.off, layout⟩).runWith providers).run ⟨world, sink⟩).world.sink.text
        = String.ofList (Text.unlines (Style.reportRows ⟨.off, layout⟩ visits)) := by
  obtain ⟨calls, visits, after, hconducts, hrun⟩ := exists_conducts_of_ok h
  refine ⟨calls, visits, after, hconducts.withStyle engine.style, ?_⟩
  apply Sink.text_of_report
  rw [hrun, Sink.written_after, hsink]
  exact List.nil_append _

/-- Runs without emphasis that succeed, on files whose names have no line feed.  The sections of
a grouped report are the files in which something was found; so runs that write the same bytes
found the same.  What the grouped report and the standard one of the same run tell of the findings
is the same list, and both answer the same. -/
theorem runWith_grouped_faithful (engine : Engine V) (other : Engine W)
    (providers : List (Vcs.Provider V)) (others : List (Vcs.Provider W)) (start : V) (world : W)
    {sink target : Sink} {clean clear : Bool} (hsink : sink.written = [])
    (htarget : target.written = [])
    (hok : (((engine.withStyle ⟨.off, .grouped⟩).runWith providers).run ⟨start, sink⟩).answer
      = .ok clean)
    (hother : (((other.withStyle ⟨.off, .grouped⟩).runWith others).run ⟨world, target⟩).answer
      = .ok clear) :
    let grouped := ((engine.withStyle ⟨.off, .grouped⟩).runWith providers).run ⟨start, sink⟩
    let second := ((other.withStyle ⟨.off, .grouped⟩).runWith others).run ⟨world, target⟩
    let standard := fun plain =>
      ((engine.withStyle ⟨.off, .standard⟩).runWith providers).run ⟨start, plain⟩
    ∃ calls visits after more found last,
      Conducts engine providers start calls visits (.ok clean) after ∧
      Conducts other others world more found (.ok clear) last ∧
      (standard .unlimited).answer = .ok clean ∧
      ((∀ visit ∈ visits, '\n' ∉ visit.file.toList) →
        Report.sections grouped.world.sink.text = Visit.summary visits ∧
        ((∀ visit ∈ found, '\n' ∉ visit.file.toList) →
          grouped.world.sink.written = second.world.sink.written →
          Visit.summary visits = Visit.summary found) ∧
        ∀ (plain : Sink) (same : Bool), plain.written = [] →
          (standard plain).answer = .ok same →
          same = clean ∧
            (Report.sections grouped.world.sink.text).flatMap Prod.snd
              = Report.flatEntries (standard plain).world.sink.text) := by
  intro grouped second standard
  obtain ⟨calls, visits, after, hconducts, htext⟩ := exists_text_of_ok hsink hok
  obtain ⟨more, found, last, hfound, hlater⟩ := exists_text_of_ok htarget hother
  have htext : grouped.world.sink.text = _ := htext
  have hlater : second.world.sink.text = _ := hlater
  refine ⟨calls, visits, after, more, found, last, hconducts, hfound, ?_, ?_⟩
  -- The calls do not depend on the style, so the standard run is conducted alike.
  · obtain ⟨_, hrun⟩ := run_of_conducts (hconducts.withStyle ⟨.off, .standard⟩)
    show (((engine.withStyle ⟨.off, .standard⟩).runWith providers).run
      ⟨start, .unlimited⟩).answer = _
    rw [hrun]
  · intro hfiles
    have hsections : Report.sections grouped.world.sink.text = Visit.summary visits := by
      rw [htext, Report.sections_report hfiles]
    refine ⟨hsections, ?_, ?_⟩
    · intro hothers hbytes
      -- The same bytes are the same text, and a text has one list of sections.
      have hsame : grouped.world.sink.text = second.world.sink.text :=
        congrArg Text.Utf8.lossyText hbytes
      rw [← hsections, hsame, hlater, Report.sections_report hothers]
    · intro plain same hplain hanswer
      -- Any standard run that succeeds visited the same files.
      obtain ⟨_, seen, _, hseen, hflat⟩ := exists_text_of_ok hplain hanswer
      have hflat : (standard plain).world.sink.text = _ := hflat
      have hvisits : seen = visits := hseen.visits_unique hconducts
      constructor
      · rw [hseen.clean_eq, hconducts.clean_eq, hvisits]
      · rw [hsections, hflat, hvisits, Visit.flatMap_summary, Report.flatEntries_report]

/-! A linter that is asked once and says the same in other words. -/

namespace Rewording

def provider : Vcs.Provider Unit where
  name := "hg"
  isUsed := pure true
  changedFiles := pure ["a.py"]
  changedLines _ := pure (.ofList ["9"])

def visit : Visit := ⟨"a.py", .ofList ["9"], "linting\nother.py:9:1: E5 x\r\na.py:8:1: E5 y"⟩

def engine : Engine Unit where
  vcs := none
  dir := "work"
  style := ⟨.off, .grouped⟩
  lint _ := pure visit.report

end Rewording

theorem runWith_grouped_faithful_reworded :
    let grouped := ((Recount.engine.withStyle ⟨.off, .grouped⟩).runWith [Recount.provider]).run
      ⟨0, .unlimited⟩
    let standard := ((Recount.engine.withStyle ⟨.off, .standard⟩).runWith [Recount.provider]).run
      ⟨0, .unlimited⟩
    Visit.summary Recount.visits = Visit.summary [Rewording.visit] ∧
      Report.sections grouped.world.sink.text = [("a.py", [⟨"9", "1", "E5", "x"⟩])] ∧
      standard.answer = .ok false ∧
      Report.flatEntries standard.world.sink.text = [⟨"9", "1", "E5", "x"⟩] := by
  have hfound : decide (∀ visit ∈ Recount.visits, visit.kept = []) = false := by decide +kernel
  have hagain : decide (∀ visit ∈ [Rewording.visit], visit.kept = []) = false := by decide +kernel
  have hcounted : ∃ calls, Conducts Recount.engine [Recount.provider] 0 calls Recount.visits
      (.ok false) 5 := by
    rw [← hfound]
    exact ⟨_, .finished (.located (.inEffect rfl [])) rfl
      (.visited rfl rfl (.visited rfl rfl (.done 5)))⟩
  have hworded : ∃ calls, Conducts Rewording.engine [Rewording.provider] () calls
      [Rewording.visit] (.ok false) () := by
    rw [← hagain]
    exact ⟨_, .finished (.located (.inEffect rfl [])) rfl (.visited rfl rfl (.done ()))⟩
  obtain ⟨_, hfirst⟩ := hcounted
  obtain ⟨_, hsecond⟩ := hworded
  obtain ⟨_, hrun⟩ := run_of_conducts (hfirst.withStyle ⟨.off, .grouped⟩)
  obtain ⟨_, hother⟩ := run_of_conducts (hsecond.withStyle ⟨.off, .grouped⟩)
  obtain ⟨_, visits, _, _, found, _, hvisits, hthere, hstandard, hfaithful⟩ :=
    runWith_grouped_faithful Recount.engine Rewording.engine [Recount.provider]
      [Rewording.provider] 0 () rfl rfl (congrArg Reply.answer hrun)
      (congrArg Reply.answer hother)
  -- Which files were visited is known, and their names have no line feed.
  have hvisits : visits = Recount.visits := hvisits.visits_unique hfirst
  have hthere : found = [Rewording.visit] := hthere.visits_unique hsecond
  rw [hvisits, hthere] at hfaithful
  obtain ⟨hsections, hsame, hflat⟩ := hfaithful (by decide +kernel)
  have hbytes : Style.report ⟨.off, .grouped⟩ Recount.visits
      = Style.report ⟨.off, .grouped⟩ [Rewording.visit] := by
    decide +kernel
  have hsummary : Visit.summary Recount.visits = [("a.py", [⟨"9", "1", "E5", "x"⟩])] := by
    decide +kernel
  refine ⟨hsame (by decide +kernel) ?_, hsections.trans hsummary, hstandard, ?_⟩
  · rw [hrun, hother]
    exact congrArg (fun bytes => (Sink.unlimited.after bytes).written) hbytes
  · rw [← (hflat .unlimited false rfl hstandard).2, hsections, hsummary]
    rfl

end Engine

end ChangeLint
