import ChangeLint.Proofs.Patch.OneFile
import ChangeLint.Proofs.Program.Course

/-! # What is reported does not depend on the system

Git and Mercurial print the diff of a file each in a way of its own.  What a run reports
depends on the numbers of the added lines and on the report of the linter alone.

* `Finding.about` are the findings of a report on lines with given numbers.
* `Setup.Backed` says that all commands of a run succeed, and what they print.
* `reply_of_backed` says what such a run writes, and that any other one with the same hunks
  and reports writes the same. -/

namespace ChangeLint

open Host (Machine Printed)
open Report (Style)
open Vcs (Kind Selected)
open Patch (FileDiff)

/-! ## Section 1: Findings on added lines -/

/-- The findings that the lines of a report state on lines with one of the numbers, where the
number of a line is written without leading zeros. -/
def Finding.about (added : List Nat) (report : String) : List Finding :=
  (Text.lines report).filterMap fun line =>
    (Finding.parse? line).filter fun finding => decide (∃ n ∈ added, finding.line = toString n)

namespace Patch

/-- What a hunk says, however its header is printed. -/
def PrintedHunk.content (hunk : PrintedHunk) : Nat × Nat × List PrintedLine :=
  (hunk.oldStart, hunk.newStart, hunk.body)

/-- What the hunks of a diff say. -/
def FileDiff.content (diff : FileDiff) : List (Nat × Nat × List PrintedLine) :=
  diff.hunks.map PrintedHunk.content

/-- The lines that a diff adds are decided by what its hunks say. -/
theorem FileDiff.added_eq_of_content {diff other : FileDiff} (h : other.content = diff.content) :
    other.added = diff.added := by
  -- The added lines of a hunk are counted from its start along its body; the header is not asked.
  have hadded : ∀ diff : FileDiff,
      diff.added = diff.content.flatMap fun hunk => PrintedLine.addedFrom hunk.2.1 hunk.2.2 := by
    intro diff
    rw [content, List.flatMap_map]
    rfl
  rw [hadded, hadded, h]

end Patch

/-- A visit with the changed lines of a diff finds what its report says about the lines that the
diff adds. -/
theorem Visit.kept_of_diff (file report : String) (diff : FileDiff) :
    Visit.kept ⟨file, Vcs.changedIn diff.text, report⟩ = Finding.about diff.added report := by
  have hnumber : ∀ n, toString n = Text.Decimal.text n := fun _ => rfl
  simp only [Visit.kept, Finding.about, FileDiff.mem_changedIn_text, hnumber]

/-! ## Section 2: Runs in which all commands succeed -/

namespace Setup

/-- The style of the report. -/
def style (setup : Setup) : Style :=
  ⟨setup.config.theme, .ofFlag setup.config.standardOutput⟩

/-- What comes of a run, with a report that takes everything. -/
def reply (setup : Setup) (machine : Machine) : Reply (Session Machine) (Except Error Bool) :=
  (setup.config.process setup.linter setup.ctx.dir).run ⟨machine, .unlimited⟩

/-- A system is picked, named or found by probes, and all commands of the run succeed: the
listing leads to these files, and each one has this diff and this report. -/
structure Backed (setup : Setup) (machine : Machine) (kind : Kind) (files : List String)
    (diffs : String → FileDiff) (reports : String → String) : Prop where
  filter : ∃ filter, Vcs.Include.ofPatterns setup.config.patterns = .ok filter ∧
    setup.ctx = setup.config.context filter setup.ctx.dir
  selected : ∃ probed, Selected machine setup.ctx setup.config.vcs kind probed
  listed : ∃ listing, Printed [0] (machine.launched (kind.listCommand setup.ctx)) listing ∧
    setup.ctx.accepted machine.tree listing = files
  diffed : ∀ file ∈ files,
    Printed [0] (machine.launched (kind.diffCommand setup.ctx file)) (diffs file).text
  linted : ∀ file ∈ files,
    Printed [0, 1] (machine.launched (setup.linter.invocation file)) (reports file)

/-- What is found in each file. -/
def findings (diffs : String → FileDiff) (reports : String → String) (file : String) :
    List Finding := Finding.about (diffs file).added (reports file)

variable {setup : Setup} {machine : Machine} {kind : Kind} {files : List String}
  {diffs : String → FileDiff} {reports : String → String}

/-- A visit can be made if the diff and the report of its file are printed. -/
theorem made_of_printed {file text report : String}
    (hdiff : Printed [0] (machine.launched (kind.diffCommand setup.ctx file)) text)
    (hlint : Printed [0, 1] (machine.launched (setup.linter.invocation file)) report) :
    setup.Made machine kind ⟨file, Vcs.changedIn text, report⟩ := ⟨⟨text, hdiff, rfl⟩, hlint⟩

/-- A run in which all commands succeed writes a block for each file, with the findings on the
lines that its diff adds. -/
theorem reply_of_finished (h : setup.Backed machine kind files diffs reports) :
    (setup.reply machine).answer
        = .ok (decide (∀ file ∈ files, findings diffs reports file = [])) ∧
      (setup.reply machine).world.sink.written = files.flatMap fun file =>
        Style.bytesOf (setup.style.block file (findings diffs reports file)) := by
  obtain ⟨filter, hfilter, hctx⟩ := h.filter
  obtain ⟨probed, hselected⟩ := h.selected
  obtain ⟨listing, hlisted, hfiles⟩ := h.listed
  -- The visits of the run, and what each one finds.
  let visits : List Visit := files.map fun file =>
    ⟨file, Vcs.changedIn (diffs file).text, reports file⟩
  have hkept : ∀ file, Visit.kept ⟨file, Vcs.changedIn (diffs file).text, reports file⟩
      = findings diffs reports file := fun file => Visit.kept_of_diff file _ _
  have horder : setup.ctx.accepted machine.tree listing = visits.map Visit.file := by
    rw [hfiles, List.map_map]
    exact (List.map_id _).symm
  have hmade : ∀ visit ∈ visits, setup.Made machine kind visit := by
    intro visit hvisit
    obtain ⟨file, hfile, rfl⟩ := List.mem_map.mp hvisit
    exact made_of_printed (h.diffed file hfile) (h.linted file hfile)
  -- The patterns can be read, so that the engine is run over the candidates.
  have hprocess : setup.config.process setup.linter setup.ctx.dir
      = setup.engine.runWith setup.ctx.providers := by
    rw [Config.process, hfilter, Setup.engine]
    dsimp only
    rw [← hctx]
  -- Choice and run of the engine are put behind one another, with the report on a sink without
  -- limit.
  have hchoose := (Vcs.gives_choose_of_selected hselected).onWorld .unlimited
  obtain ⟨events, hrun, _⟩ := hchoose.bind (gives_runOver_of_finished hlisted horder hmade)
  have hsame : setup.reply machine
      = (setup.engine.runWith setup.ctx.providers).run ⟨machine, .unlimited⟩ := by
    rw [reply, hprocess]
  have hreply : setup.reply machine = _ := hsame.trans hrun
  -- Answer and report are those of the visits, told in terms of the files.
  have hclean : (∀ visit ∈ visits, visit.kept = [])
      ↔ ∀ file ∈ files, findings diffs reports file = [] := by
    simp only [visits, List.forall_mem_map, hkept]
  have hreport : setup.engine.style.report visits = files.flatMap fun file =>
      Style.bytesOf (setup.style.block file (findings diffs reports file)) := by
    simp only [visits, Style.report, List.flatMap_map, hkept]
    rfl
  rw [hreply]
  refine ⟨?_, ?_⟩
  · simp only [hclean]
  · rw [← hreport]
    rfl

/-- What is found in a file is decided by what its hunks say and by its report. -/
theorem findings_eq_of_content {others : String → FileDiff} {file : String}
    (h : (others file).content = (diffs file).content) :
    findings others reports file = findings diffs reports file := by
  -- A diff counts through its added lines only.
  rw [findings, FileDiff.added_eq_of_content h]
  rfl

end Setup

/-- In a run in which all commands succeed, a line of a report on a listed file is reported
exactly if it states a finding on a line that the diff of the file adds.  So two runs with the
same files, the same hunks and the same reports write the same and answer the same, whatever
systems they ask. -/
theorem reply_of_backed {setup : Setup} {machine : Machine} {kind : Kind} {files : List String}
    {diffs : String → FileDiff} {reports : String → String}
    (h : setup.Backed machine kind files diffs reports) :
    let found := fun file => Finding.about (diffs file).added (reports file)
    (setup.reply machine).answer = .ok (decide (∀ file ∈ files, found file = [])) ∧
    (setup.reply machine).world.sink.written
      = files.flatMap (fun file => Style.bytesOf (setup.style.block file (found file))) ∧
    ∀ (other : Setup) (machine' : Machine) (kind' : Kind) (diffs' : String → FileDiff),
      other.Backed machine' kind' files diffs' reports → other.style = setup.style →
      (∀ file ∈ files, (diffs' file).content = (diffs file).content) →
      (other.reply machine').answer = (setup.reply machine).answer ∧
        (other.reply machine').world.sink.written
          = (setup.reply machine).world.sink.written := by
  intro found
  obtain ⟨hanswer, hwritten⟩ := Setup.reply_of_finished h
  refine ⟨hanswer, hwritten, ?_⟩
  intro other machine' kind' diffs' hother hstyle hcontent
  obtain ⟨hanswer', hwritten'⟩ := Setup.reply_of_finished hother
  -- Both runs find the same in each file, and so answer and write the same.
  have hfound : ∀ file ∈ files,
      Setup.findings diffs' reports file = Setup.findings diffs reports file :=
    fun file hfile => Setup.findings_eq_of_content (hcontent file hfile)
  constructor
  · have hclean : (∀ file ∈ files, Setup.findings diffs' reports file = [])
        ↔ ∀ file ∈ files, Setup.findings diffs reports file = [] := by
      constructor
      · intro hall file hfile
        rw [← hfound file hfile]
        exact hall file hfile
      · intro hall file hfile
        rw [hfound file hfile]
        exact hall file hfile
    rw [hanswer, hanswer']
    simp only [hclean]
  -- The blocks are compared on the listed files only, for of other files nothing is known.
  · have hblocks : ∀ file ∈ files,
        Style.bytesOf (setup.style.block file (Setup.findings diffs' reports file))
          = Style.bytesOf (setup.style.block file (Setup.findings diffs reports file)) := by
      intro file hfile
      rw [hfound file hfile]
    rw [hwritten, hwritten', hstyle, List.flatMap_def, List.flatMap_def,
      List.map_congr_left hblocks]

/-! A machine with both systems, on which the second line of a file was added. -/

namespace Twofold

def text (s : String) (h : '\n' ∉ s.toList := by decide) : Patch.Inline := ⟨s.toList, h⟩

def hunk (short : Bool) : Patch.PrintedHunk where
  oldStart := 1
  newStart := 2
  body := [.added (text "y = 1")]
  shortOld := false
  shortNew := short
  context := text ""
  oldStart_lt := by decide
  oldLength_lt := by decide
  newEnd_lt := by decide

def path : Patch.SpelledPath := ⟨"b/a.py".toList, by decide, by decide⟩

/-- The diff as git prints it. -/
def gitDiff : FileDiff := ⟨[⟨.git (text "a/a.py b/a.py"), [],
  some ⟨text "a/a.py", path, none, [hunk true]⟩⟩]⟩

/-- The diff as Mercurial prints it: with a time, and with every length. -/
def hgDiff : FileDiff := ⟨[⟨.mercurial (text "4a2f a.py"), [],
  some ⟨text "a/a.py\tThu", path, some (text "Fri"), [hunk false]⟩⟩]⟩

def report : String := "a.py:1:1: E1 old\na.py:2:1: E5 new\na.py:02:1: E5 new\n"

/-- A system with one file: it lists that, and to everything else it answers with the diff. -/
def system (listed : List String) (diff : FileDiff) (args : List String) : Host.Outcome :=
  if listed ⊆ args then ⟨Text.Utf8.bytes "a.py\n", [], .exited 0⟩
  else ⟨Text.Utf8.bytes diff.text, [], .exited 0⟩

def machine : Machine where
  tree := ⟨[(["w"], .directory), (["w", "a.py"], .file [] .refused), (["bin"], .directory),
    (["bin", "git"], .file [] (.runs (system ["--name-only"] gitDiff))),
    (["bin", "hg"], .file [] (.runs (system ["status"] hgDiff))),
    (["bin", "flake8"], .file [] (.runs fun _ => ⟨Text.Utf8.bytes report, [], .exited 1⟩))]⟩
  workingDir := "/w"
  searchPath := ["/bin"]
  workingDir_absolute := Host.isAbsolute_sample

/-- A run over the system that is named, or else over the first one in effect. -/
def setup (vcs : Option String) : Setup where
  config := { vcs, theme := .off, patterns := [] }
  linter := ⟨"/bin/flake8", [], "/w"⟩
  ctx := ⟨"/w", ["master"], ⟨[]⟩⟩

/-- A run for which nothing is named, and finds git. -/
def git : Setup := setup none

def hg : Setup := setup (some "hg")

theorem printed_of_text {statuses : List Nat} {launched : Except Host.Fault Host.Outcome}
    {shown : String} (code : Nat) (h : launched = .ok ⟨Text.Utf8.bytes shown, [], .exited code⟩)
    (hstatus : code ∈ statuses)
    (hshown : Text.Utf8.lossyText (Text.Utf8.bytes shown) = shown) :
    Printed statuses launched shown := by
  have hprinted : Printed statuses (.ok ⟨Text.Utf8.bytes shown, [], .exited code⟩)
      (Text.Utf8.lossyText (Text.Utf8.bytes shown)) := .exited rfl hstatus
  rw [h]
  rwa [hshown] at hprinted

theorem backed_git : git.Backed machine .git ["a.py"] (fun _ => gitDiff)
    (fun _ => report) where
  filter := ⟨⟨[]⟩, rfl, rfl⟩
  selected := by
    -- Nothing is named, so that git answers the probe before Mercurial is asked.
    have hprobe : Printed [0] (machine.launched (Kind.git.probeCommand git.ctx))
        gitDiff.text := printed_of_text 0 rfl (by decide) (by decide +kernel)
    have horder : Kind.all = [] ++ .git :: [.mercurial] := rfl
    exact ⟨_, .probed horder nofun hprobe⟩
  listed := ⟨"a.py\n", printed_of_text 0 rfl (by decide) (by decide +kernel), by decide +kernel⟩
  diffed := by
    intro file hfile
    rw [List.mem_singleton.mp hfile]
    exact printed_of_text 0 rfl (by decide) (by decide +kernel)
  linted := by
    intro file hfile
    rw [List.mem_singleton.mp hfile]
    exact printed_of_text 1 rfl (by decide) (by decide +kernel)

theorem backed_hg : hg.Backed machine .mercurial ["a.py"] (fun _ => hgDiff)
    (fun _ => report) where
  filter := ⟨⟨[]⟩, rfl, rfl⟩
  selected := ⟨[], .named .mercurial⟩
  listed := ⟨"a.py\n", printed_of_text 0 rfl (by decide) (by decide +kernel), by decide +kernel⟩
  diffed := by
    intro file hfile
    rw [List.mem_singleton.mp hfile]
    exact printed_of_text 0 rfl (by decide) (by decide +kernel)
  linted := by
    intro file hfile
    rw [List.mem_singleton.mp hfile]
    exact printed_of_text 1 rfl (by decide) (by decide +kernel)

end Twofold

theorem reply_of_backed_twofold :
    (Twofold.git.reply Twofold.machine).answer = .ok false ∧
    (Twofold.git.reply Twofold.machine).world.sink.written
      = Text.Utf8.bytes "Found violations: a.py\n\tE5 @ 2:1 - new\n" ∧
    (Twofold.hg.reply Twofold.machine).answer = (Twofold.git.reply Twofold.machine).answer ∧
    (Twofold.hg.reply Twofold.machine).world.sink.written
      = (Twofold.git.reply Twofold.machine).world.sink.written := by
  obtain ⟨hanswer, hwritten, hsame⟩ := reply_of_backed Twofold.backed_git
  obtain ⟨hgAnswer, hgWritten⟩ := hsame Twofold.hg Twofold.machine .mercurial _ Twofold.backed_hg
    rfl fun _ _ => rfl
  refine ⟨?_, ?_, hgAnswer, hgWritten⟩
  · have hfound : decide (∀ file ∈ ["a.py"],
        Finding.about Twofold.gitDiff.added Twofold.report = []) = false := by decide +kernel
    rw [hanswer, hfound]
  · rw [hwritten]
    decide +kernel

end ChangeLint
