import ChangeLint.Proofs.Program.Stages

/-! # The course of a run

A run goes through its stages until the first one that fails.  `Course` says for each stage what
comes of a run that ends there: its exit status, its report, and the programs that it ran.  On
every machine there is exactly one course, and the program follows it (`run_iff_course`). -/

namespace ChangeLint

open Host (Machine Printed Failed)
open Vcs (Kind Selected Unselected)

/-! ## Section 1: Visits on a machine -/

namespace Setup

/-- The diff and the lint of a visit succeed and give what it holds. -/
structure Made (setup : Setup) (machine : Machine) (kind : Kind) (visit : Visit) : Prop where
  diff : ∃ text, Printed [0] (machine.launched (kind.diffCommand setup.ctx visit.file)) text ∧
    visit.lines = Vcs.changedIn text
  lint : Printed [0, 1] (machine.launched (setup.linter.invocation visit.file)) visit.report

/-- The programs of some visits. -/
def programs (setup : Setup) (kind : Kind) (visits : List Visit) : List Invocation :=
  visits.flatMap fun visit =>
    [kind.diffCommand setup.ctx visit.file, setup.linter.invocation visit.file]

variable {setup : Setup} {machine : Machine} {kind : Kind}

/-- Visits whose diffs and lints succeed can be made one after the other. -/
theorem passes_of_made {visits : List Visit}
    (h : ∀ visit ∈ visits, setup.Made machine kind visit) :
    ∃ events, setup.engine.Passes (kind.provider setup.ctx) machine visits machine events ∧
      Event.programs events = setup.programs kind visits := by
  induction visits with
  | nil => exact ⟨[], .nil machine, rfl⟩
  | cons visit visits ih =>
    obtain ⟨⟨text, hdiff, hlines⟩, hlint⟩ := h visit (by simp)
    obtain ⟨events, hpass, hprograms⟩ := ih fun other hother => h other (by simp [hother])
    obtain ⟨looked, hlooked, hdiffs⟩ := Kind.gives_changedLines_of_printed hdiff
    obtain ⟨linted, hlinted, hlints⟩ := Linter.gives_lint_of_printed hlint
    -- The machine is the same before and after, so the visits do not depend on each other.
    rw [← hlines] at hlooked
    refine ⟨_, .cons hlooked hlinted hpass, ?_⟩
    simp [Visit.trace, hdiffs, hlints, hprograms, programs]

/-- Either all files can be visited, or there is a first one whose diff or lint fails. -/
theorem made_or_stopped (setup : Setup) (machine : Machine) (kind : Kind) (files : List String) :
    (∃ visits : List Visit, files = visits.map Visit.file ∧
      ∀ visit ∈ visits, setup.Made machine kind visit) ∨
    ∃ (visits : List Visit) (file : String) (rest : List String),
      files = visits.map Visit.file ++ file :: rest ∧
      (∀ visit ∈ visits, setup.Made machine kind visit) ∧
      (Failed [0] (machine.launched (kind.diffCommand setup.ctx file)) ∨
        (∃ text, Printed [0] (machine.launched (kind.diffCommand setup.ctx file)) text) ∧
        Failed [0, 1] (machine.launched (setup.linter.invocation file))) := by
  -- The first file either stops the run or is a visit in front of the others.
  induction files with
  | nil => exact .inl ⟨[], rfl, nofun⟩
  | cons file files ih =>
    rcases Host.printed_or_failed [0] (machine.launched (kind.diffCommand setup.ctx file)) with
      ⟨text, hdiff⟩ | hdiff
    -- The diff could be had; now the linter decides.
    · rcases Host.printed_or_failed [0, 1] (machine.launched (setup.linter.invocation file)) with
        ⟨report, hlint⟩ | hlint
      · have hmade : setup.Made machine kind ⟨file, Vcs.changedIn text, report⟩ :=
          ⟨⟨text, hdiff, rfl⟩, hlint⟩
        rcases ih with ⟨visits, rfl, hvisits⟩ | ⟨visits, last, rest, rfl, hvisits, hstop⟩
        · exact .inl ⟨_ :: visits, rfl, List.forall_mem_cons.mpr ⟨hmade, hvisits⟩⟩
        · exact .inr ⟨_ :: visits, last, rest, rfl,
            List.forall_mem_cons.mpr ⟨hmade, hvisits⟩, hstop⟩
      · exact .inr ⟨[], file, files, rfl, nofun, .inr ⟨⟨text, hdiff⟩, hlint⟩⟩
    · exact .inr ⟨[], file, files, rfl, nofun, .inl hdiff⟩

end Setup

/-! ## Section 2: Courses -/

/-- What comes of a run: its exit status, its report, and the programs that it runs.  Each case
is a stage that is the first to fail, and the last one a run without failure. -/
inductive Course (options : Cli.Options) (machine : Machine) :
    Nat → List UInt8 → List Invocation → Prop where
  /-- The directory, the configuration or the linter cannot be had. -/
  | unready (h : Unready options machine) : Course options machine 1 [] []
  /-- No version control system is picked. -/
  | unselected {setup : Setup} {probed : List Invocation} (ready : Ready options machine setup)
      (selected : Unselected machine setup.ctx setup.config.vcs probed) :
      Course options machine 1 [] probed
  /-- The changed files cannot be listed. -/
  | unlisted {setup : Setup} {kind : Kind} {probed : List Invocation}
      (ready : Ready options machine setup)
      (selected : Selected machine setup.ctx setup.config.vcs kind probed)
      (failed : Failed [0] (machine.launched (kind.listCommand setup.ctx))) :
      Course options machine 3 [] (probed ++ machine.runs (kind.listCommand setup.ctx))
  /-- After some visits the diff of a file cannot be had. -/
  | undiffed {setup : Setup} {kind : Kind} {probed : List Invocation} {listing file : String}
      {visits : List Visit} {files : List String} (ready : Ready options machine setup)
      (selected : Selected machine setup.ctx setup.config.vcs kind probed)
      (listed : Printed [0] (machine.launched (kind.listCommand setup.ctx)) listing)
      (order : setup.ctx.accepted machine.tree listing = visits.map Visit.file ++ file :: files)
      (made : ∀ visit ∈ visits, setup.Made machine kind visit)
      (failed : Failed [0] (machine.launched (kind.diffCommand setup.ctx file))) :
      Course options machine 3 (setup.report visits)
        (probed ++ kind.listCommand setup.ctx :: setup.programs kind visits
          ++ machine.runs (kind.diffCommand setup.ctx file))
  /-- After some visits a file cannot be linted. -/
  | unlinted {setup : Setup} {kind : Kind} {probed : List Invocation}
      {listing file diff : String} {visits : List Visit} {files : List String}
      (ready : Ready options machine setup)
      (selected : Selected machine setup.ctx setup.config.vcs kind probed)
      (listed : Printed [0] (machine.launched (kind.listCommand setup.ctx)) listing)
      (order : setup.ctx.accepted machine.tree listing = visits.map Visit.file ++ file :: files)
      (made : ∀ visit ∈ visits, setup.Made machine kind visit)
      (diffed : Printed [0] (machine.launched (kind.diffCommand setup.ctx file)) diff)
      (failed : Failed [0, 1] (machine.launched (setup.linter.invocation file))) :
      Course options machine 4 (setup.report visits)
        (probed ++ kind.listCommand setup.ctx :: setup.programs kind visits
          ++ kind.diffCommand setup.ctx file :: machine.runs (setup.linter.invocation file))
  /-- All files are visited. -/
  | finished {setup : Setup} {kind : Kind} {probed : List Invocation} {listing : String}
      {visits : List Visit} (ready : Ready options machine setup)
      (selected : Selected machine setup.ctx setup.config.vcs kind probed)
      (listed : Printed [0] (machine.launched (kind.listCommand setup.ctx)) listing)
      (order : setup.ctx.accepted machine.tree listing = visits.map Visit.file)
      (made : ∀ visit ∈ visits, setup.Made machine kind visit) :
      Course options machine (if ∀ visit ∈ visits, visit.kept = [] then 0 else 2)
        (setup.report visits) (probed ++ kind.listCommand setup.ctx :: setup.programs kind visits)

/-- On every machine a run has a course. -/
theorem exists_course (options : Cli.Options) (machine : Machine) :
    ∃ status stdout programs, Course options machine status stdout programs := by
  -- At each stage either it fails, and the course ends there, or the next one is reached.
  rcases ready_or_unready options machine with ⟨setup, ready⟩ | unready
  · rcases Vcs.selected_or_unselected machine setup.ctx setup.config.vcs with
      ⟨kind, probed, selected⟩ | ⟨probed, unselected⟩
    · rcases Host.printed_or_failed [0] (machine.launched (kind.listCommand setup.ctx)) with
        ⟨listing, listed⟩ | failed
      · rcases setup.made_or_stopped machine kind (setup.ctx.accepted machine.tree listing) with
          ⟨visits, order, made⟩ |
          ⟨visits, file, rest, order, made, failed | ⟨⟨diff, diffed⟩, failed⟩⟩
        · exact ⟨_, _, _, .finished ready selected listed order made⟩
        · exact ⟨_, _, _, .undiffed ready selected listed order made failed⟩
        · exact ⟨_, _, _, .unlinted ready selected listed order made diffed failed⟩
      · exact ⟨_, _, _, .unlisted ready selected failed⟩
    · exact ⟨_, _, _, .unselected ready unselected⟩
  · exact ⟨_, _, _, .unready unready⟩

/-! ## Section 3: Runs over one system -/

namespace Setup

variable {setup : Setup} {machine : Machine} {kind : Kind}

/-- Nothing is refused on the standard output. -/
theorem hasRoom_unlimited (bytes : List UInt8) : Report.Sink.unlimited.HasRoom bytes := nofun

theorem gives_runOver_of_unlisted
    (failed : Failed [0] (machine.launched (kind.listCommand setup.ctx))) :
    ∃ complaint, (setup.engine.runOver (kind.provider setup.ctx)).Gives ⟨machine, .unlimited⟩
      (.error (.vcs complaint)) ⟨machine, .unlimited⟩
      (machine.runs (kind.listCommand setup.ctx)) := by
  obtain ⟨complaint, listed, hfiles, hprograms⟩ := Kind.gives_changedFiles_of_failed failed
  refine ⟨complaint, _, Engine.run_runOver_of_listing_error .unlimited hfiles, ?_⟩
  simp [Engine.opening, hprograms]

/-- If the check of a file fails behind some visits, their report stands and nothing more is
run. -/
theorem gives_runOver_of_check_error {listing file : String} {visits : List Visit}
    {files : List String} {error : Error} {programs : List Invocation}
    (listed : Printed [0] (machine.launched (kind.listCommand setup.ctx)) listing)
    (order : setup.ctx.accepted machine.tree listing = visits.map Visit.file ++ file :: files)
    (made : ∀ visit ∈ visits, setup.Made machine kind visit)
    (hcheck : ∀ sink, (setup.engine.check (kind.provider setup.ctx) file).Gives ⟨machine, sink⟩
      (.error error) ⟨machine, sink⟩ programs) :
    (setup.engine.runOver (kind.provider setup.ctx)).Gives ⟨machine, .unlimited⟩ (.error error)
      ⟨machine, Report.Sink.unlimited.after (setup.engine.style.report visits)⟩
      (kind.listCommand setup.ctx :: setup.programs kind visits ++ programs) := by
  obtain ⟨listed, hfiles, hlisted⟩ := Kind.gives_changedFiles_of_printed listed
  obtain ⟨events, hpass, hvisits⟩ := passes_of_made made
  -- By then the sink holds the report of the visits made.
  obtain ⟨failed, hfailed, hprograms⟩ := hcheck
    (Report.Sink.unlimited.after (setup.engine.style.report visits))
  rw [order] at hfiles
  refine ⟨_, Engine.run_runOver_of_check_error hfiles hpass (hasRoom_unlimited _) (.inr rfl)
    hfailed, ?_⟩
  simp [Engine.opening, hlisted, hvisits, hprograms]

theorem gives_check_of_undiffed {file : String}
    (failed : Failed [0] (machine.launched (kind.diffCommand setup.ctx file))) :
    ∃ complaint, ∀ sink, (setup.engine.check (kind.provider setup.ctx) file).Gives
      ⟨machine, sink⟩ (.error (.vcs complaint)) ⟨machine, sink⟩
      (machine.runs (kind.diffCommand setup.ctx file)) := by
  obtain ⟨complaint, looked, hdiff, hprograms⟩ := Kind.gives_changedLines_of_failed failed
  refine ⟨complaint, fun sink => ⟨_, Engine.run_check_of_diff_error sink hdiff, ?_⟩⟩
  rw [Event.programs_cons_asked, hprograms]

theorem gives_check_of_unlinted {file diff : String}
    (diffed : Printed [0] (machine.launched (kind.diffCommand setup.ctx file)) diff)
    (failed : Failed [0, 1] (machine.launched (setup.linter.invocation file))) :
    ∃ complaint, ∀ sink, (setup.engine.check (kind.provider setup.ctx) file).Gives
      ⟨machine, sink⟩ (.error (.linter complaint)) ⟨machine, sink⟩
      (kind.diffCommand setup.ctx file :: machine.runs (setup.linter.invocation file)) := by
  obtain ⟨looked, hdiff, hlooked⟩ := Kind.gives_changedLines_of_printed diffed
  obtain ⟨complaint, linted, hlint, hlinted⟩ := Linter.gives_lint_of_failed failed
  refine ⟨complaint, fun sink => ⟨_, Engine.run_check_of_lint_error sink hdiff hlint, ?_⟩⟩
  simp [Visit.trace, hlooked, hlinted]

theorem gives_runOver_of_finished {listing : String} {visits : List Visit}
    (listed : Printed [0] (machine.launched (kind.listCommand setup.ctx)) listing)
    (order : setup.ctx.accepted machine.tree listing = visits.map Visit.file)
    (made : ∀ visit ∈ visits, setup.Made machine kind visit) :
    (setup.engine.runOver (kind.provider setup.ctx)).Gives ⟨machine, .unlimited⟩
      (.ok (decide (∀ visit ∈ visits, visit.kept = [])))
      ⟨machine, Report.Sink.unlimited.after (setup.engine.style.report visits)⟩
      (kind.listCommand setup.ctx :: setup.programs kind visits) := by
  obtain ⟨listed, hfiles, hlisted⟩ := Kind.gives_changedFiles_of_printed listed
  obtain ⟨events, hpass, hvisits⟩ := passes_of_made made
  rw [order] at hfiles
  refine ⟨_, Engine.run_runOver_of_passes hfiles hpass (hasRoom_unlimited _) (.inr rfl), ?_⟩
  simp [Engine.opening, Engine.closing, hlisted, hvisits]

end Setup

/-! ## Section 4: The program -/

namespace Program

/-- The programs that a run started, in order. -/
def Outcome.programs (outcome : Outcome) : List Invocation := Event.programs outcome.events

/-- The probes of the system that is picked come first. -/
theorem gives_check_of_selected {options : Cli.Options} {machine : Machine} {setup : Setup}
    {kind : Kind} {probed programs : List Invocation} {sink : Report.Sink}
    {answer : Except Error Bool} {after : Session Machine} (ready : Ready options machine setup)
    (selected : Selected machine setup.ctx setup.config.vcs kind probed)
    (hrun : (setup.engine.runOver (kind.provider setup.ctx)).Gives ⟨machine, sink⟩ answer after
      programs) :
    (check options).Gives ⟨machine, sink⟩ answer after (probed ++ programs) := by
  have hchoose := (Vcs.gives_choose_of_selected selected).onWorld sink
  exact gives_check_of_ready ready (hchoose.bind hrun)

/-- A course says what the check comes to. -/
theorem gives_check_of_course {options : Cli.Options} {machine : Machine} {status : Nat}
    {stdout : List UInt8} {programs : List Invocation}
    (h : Course options machine status stdout programs) :
    ∃ answer after, (check options).Gives ⟨machine, .unlimited⟩ answer after programs ∧
      exitStatus answer = status ∧ after.sink.written = stdout := by
  -- A case for each stage; every one is the lemma about that stage, put behind the stages before.
  cases h with
  | unready unready =>
    obtain ⟨error, hstatus, hcheck⟩ := gives_check_of_unready unready .unlimited
    exact ⟨_, _, hcheck, hstatus, rfl⟩
  | @unselected setup _ ready unselected =>
    obtain ⟨error, hstatus, hchoose⟩ := Vcs.gives_choose_of_unselected unselected
    have hrun : (setup.engine.runWith setup.ctx.providers).Gives ⟨machine, .unlimited⟩
        (.error error) ⟨machine, .unlimited⟩ programs :=
      (hchoose.onWorld .unlimited).bind_error
    exact ⟨_, _, gives_check_of_ready ready hrun, hstatus, rfl⟩
  | unlisted ready selected failed =>
    obtain ⟨complaint, hrun⟩ := Setup.gives_runOver_of_unlisted failed
    exact ⟨_, _, gives_check_of_selected ready selected hrun, rfl, rfl⟩
  | undiffed ready selected listed order made failed =>
    obtain ⟨complaint, hcheck⟩ := Setup.gives_check_of_undiffed failed
    have hrun := Setup.gives_runOver_of_check_error listed order made hcheck
    rw [List.append_assoc]
    exact ⟨_, _, gives_check_of_selected ready selected hrun, rfl, rfl⟩
  | unlinted ready selected listed order made diffed failed =>
    obtain ⟨complaint, hcheck⟩ := Setup.gives_check_of_unlinted diffed failed
    have hrun := Setup.gives_runOver_of_check_error listed order made hcheck
    rw [List.append_assoc]
    exact ⟨_, _, gives_check_of_selected ready selected hrun, rfl, rfl⟩
  | @finished setup kind probed listing visits ready selected listed order made =>
    have hrun := Setup.gives_runOver_of_finished listed order made
    refine ⟨_, _, gives_check_of_selected ready selected hrun, ?_, rfl⟩
    -- The status says whether any visit kept something, and so does the answer.
    by_cases hclean : ∀ visit ∈ visits, visit.kept = []
    · rw [decide_eq_true hclean, if_pos hclean]
      rfl
    · rw [decide_eq_false hclean, if_neg hclean]
      rfl

namespace Signalled

def git (args : List String) : Host.Outcome :=
  if "rev-parse" ∈ args then ⟨[], [], .exited 0⟩
  else if "--name-only" ∈ args then ⟨Text.Utf8.bytes "a.py\nb.py\n", [], .exited 0⟩
  else ⟨Text.Utf8.bytes "+++ b/a.py\n@@ -0,0 +1 @@\n+x\n", [], .exited 0⟩

def flake8 (args : List String) : Host.Outcome :=
  if "a.py" ∈ args then ⟨Text.Utf8.bytes "a.py:1:1: E5 x\n", [], .exited 1⟩
  else ⟨[], [], .signalled⟩

def machine : Machine where
  tree := ⟨[(["w"], .directory), (["w", "a.py"], .file [] .refused),
    (["w", "b.py"], .file [] .refused), (["bin"], .directory),
    (["bin", "git"], .file [] (.runs git)), (["bin", "flake8"], .file [] (.runs flake8))]⟩
  workingDir := "/w"
  searchPath := ["/bin"]
  workingDir_absolute := Host.isAbsolute_sample

def programs : List Invocation :=
  [⟨"git", Kind.git.used, "/w"⟩, ⟨"git", Kind.git.listing ["master"], "/w"⟩,
    ⟨"git", Kind.git.diff ["master"] "a.py", "/w"⟩, ⟨"/bin/flake8", ["a.py"], "/w"⟩,
    ⟨"git", Kind.git.diff ["master"] "b.py", "/w"⟩, ⟨"/bin/flake8", ["b.py"], "/w"⟩]

end Signalled

end Program

end ChangeLint
