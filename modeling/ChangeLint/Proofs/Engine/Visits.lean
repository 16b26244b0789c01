import ChangeLint.Proofs.Report.Blocks

/-! # Visits to files

An engine *visits* a file when it obtains its changed lines and then the linter's report on it.
This module follows a run of the engine from visit to visit.

* `Visit.kept` is what a visit finds: the lines of the report that state a finding on a changed
  line.
* `Engine.Passes` says that a list of visits can be made one after the other, and what they do
  to the world and to the trace.
* `run_checkAll_append` is the run lemma: visits that can be made write the blocks of their
  files, and the run goes on behind them with what they left.
* `runWith_reports_kept` puts it together for a run in which no call fails. -/

namespace ChangeLint

open Report (Sink Style)

/-! ## Section 1: Visits -/

/-- A file with its changed lines and the linter's report on it. -/
structure Visit where
  file : String
  lines : Patch.LineSet
  report : String
  deriving DecidableEq

namespace Visit

/-- What a visit finds: of each line of the report the finding that it states, if that is on a
changed line. -/
def kept (visit : Visit) : List Finding :=
  (Text.lines visit.report).filterMap fun line =>
    (Finding.parse? line).filter fun finding => decide (finding.line ∈ visit.lines.toList)

/-- The engine keeps what a visit finds. -/
theorem kept_eq (visit : Visit) : Finding.kept visit.lines visit.report = visit.kept := by
  -- The engine filters all findings at the end, a visit each of them where it is parsed.
  unfold Finding.kept kept
  rw [List.filter_filterMap]
  congr 1
  funext line
  simp [← Patch.LineSet.contains_iff]

/-- The trace of a visit, given what obtaining the lines and the report left behind. -/
def trace (file : String) (lines : Patch.LineSet) (looked linted : List Event) : List Event :=
  .asked (.changedLines file) :: (looked ++
    .logged ⟨.info, .engine, Engine.checkingText file lines⟩ :: .asked (.lint file) :: linted)

end Visit

/-- The bytes that visits add to a report: the blocks of their files, in order. -/
def Report.Style.report (style : Style) (visits : List Visit) : List UInt8 :=
  visits.flatMap fun visit => Style.bytesOf (style.block visit.file visit.kept)

/-- The number of findings of some visits. -/
def Visit.count (visits : List Visit) : Nat := (visits.flatMap Visit.kept).length

/-- Nothing is counted exactly when no visit found anything. -/
theorem Visit.count_eq_zero_iff {visits : List Visit} :
    Visit.count visits = 0 ↔ ∀ visit ∈ visits, visit.kept = [] := by
  rw [Visit.count, List.length_eq_zero_iff, List.flatMap_eq_nil_iff]

/-! ## Section 2: Sessions -/

namespace Session

theorem run_onWorld (attempt : Attempt W α) (session : Session W) :
    (onWorld attempt).run session =
      let reply := attempt.run session.world
      ⟨reply.answer, { session with world := reply.world }, reply.events⟩ := rfl

theorem run_onSink (attempt : Attempt Sink α) (session : Session W) :
    (onSink attempt).run session =
      let reply := attempt.run session.sink
      ⟨reply.answer, { session with sink := reply.world }, reply.events⟩ := rfl

/-- Two attempts on the sink are one attempt on the sink. -/
theorem onSink_bind (attempt : Attempt Sink α) (next : α → Attempt Sink β) :
    (onSink (attempt >>= next) : Attempt (Session W) β)
      = onSink attempt >>= fun a => onSink (next a) := by
  unfold onSink
  apply Attempt.within_bind
  · intro sink session; rfl
  · intro a b session; rfl

/-- A question is noted before it is put. -/
theorem run_ask (query : Query) (attempt : Attempt W α) (session : Session W) :
    (ask query attempt).run session =
      let reply := attempt.run session.world
      ⟨reply.answer, { session with world := reply.world }, .asked query :: reply.events⟩ := by
  -- The note leaves world and sink alone.
  have hnote : (Attempt.ofAct (Act.emit (.asked query)) : Attempt (Session W) Unit).run session
      = ⟨.ok (), session, [.asked query]⟩ := rfl
  unfold ask
  rw [Attempt.run_bind_of_ok hnote, run_onWorld]
  rfl

end Session

namespace Engine

theorem run_log (level : Level) (text : String) (world : W) :
    (log level text : Attempt W Unit).run world
      = ⟨.ok (), world, [.logged ⟨level, .engine, text⟩]⟩ := rfl

/-! ## Section 3: One file -/

section

variable {engine : Engine W} {provider : Vcs.Provider W}

/-- If the changed lines cannot be obtained, the check of a file ends there. -/
theorem run_check_of_diff_error {file : String} {world between : W} {error : Error}
    {looked : List Event} (sink : Sink)
    (hdiff : (provider.changedLines file).run world = ⟨.error error, between, looked⟩) :
    (engine.check provider file).run ⟨world, sink⟩
      = ⟨.error error, ⟨between, sink⟩, .asked (.changedLines file) :: looked⟩ := by
  have hask : (Session.ask (.changedLines file) (provider.changedLines file)).run ⟨world, sink⟩
      = ⟨.error error, ⟨between, sink⟩, .asked (.changedLines file) :: looked⟩ := by
    rw [Session.run_ask, hdiff]
  exact Attempt.run_bind_of_error hask

/-- Once the changed lines are obtained, the check of a file announces them and asks for the
report; what is left is to write what is kept. -/
theorem run_check_of_diff {file : String} {lines : Patch.LineSet} {world between : W}
    {looked : List Event} (sink : Sink)
    (hdiff : (provider.changedLines file).run world = ⟨.ok lines, between, looked⟩) :
    (engine.check provider file).run ⟨world, sink⟩ =
      ((do
        let report ← Session.ask (.lint file) (engine.lint file)
        let findings := Finding.kept lines report
        Session.onSink (do
          reportKept engine.style findings
          engine.style.fileFinished file findings)
        pure findings.length : Attempt (Session W) Nat).run ⟨between, sink⟩).behind
      (.asked (.changedLines file) :: (looked ++
        [.logged ⟨.info, .engine, checkingText file lines⟩])) := by
  have hask : (Session.ask (.changedLines file) (provider.changedLines file)).run ⟨world, sink⟩
      = ⟨.ok lines, ⟨between, sink⟩, .asked (.changedLines file) :: looked⟩ := by
    rw [Session.run_ask, hdiff]
  unfold check
  rw [Attempt.run_bind_of_ok hask, Attempt.run_bind_of_ok (run_log ..), Reply.behind_behind]
  -- The two writes are one attempt on the sink, which is how a block is written.
  simp only [Session.onSink_bind, bind_assoc, List.cons_append]

/-- If the report cannot be obtained, the check of a file ends there, with nothing written. -/
theorem run_check_of_lint_error {file : String} {lines : Patch.LineSet}
    {world between last : W} {error : Error} {looked linted : List Event} (sink : Sink)
    (hdiff : (provider.changedLines file).run world = ⟨.ok lines, between, looked⟩)
    (hlint : (engine.lint file).run between = ⟨.error error, last, linted⟩) :
    (engine.check provider file).run ⟨world, sink⟩
      = ⟨.error error, ⟨last, sink⟩, Visit.trace file lines looked linted⟩ := by
  have hask : (Session.ask (.lint file) (engine.lint file)).run ⟨between, sink⟩
      = ⟨.error error, ⟨last, sink⟩, .asked (.lint file) :: linted⟩ := by
    rw [Session.run_ask, hlint]
  -- The file was announced before the linter failed, and nothing was kept yet.
  rw [run_check_of_diff sink hdiff, Attempt.run_bind_of_error hask]
  simp [Visit.trace]

/-- If both can be obtained and the sink takes it, the block of the file is written. -/
theorem run_check_of_visit {visit : Visit} {world between last : W}
    {looked linted : List Event} {sink : Sink}
    (hdiff : (provider.changedLines visit.file).run world = ⟨.ok visit.lines, between, looked⟩)
    (hlint : (engine.lint visit.file).run between = ⟨.ok visit.report, last, linted⟩)
    (hroom : sink.HasRoom (Style.bytesOf (engine.style.block visit.file visit.kept)))
    (hflush : sink.flushFault = none) :
    (engine.check provider visit.file).run ⟨world, sink⟩
      = ⟨.ok visit.kept.length,
          ⟨last, sink.after (Style.bytesOf (engine.style.block visit.file visit.kept))⟩,
          Visit.trace visit.file visit.lines looked linted⟩ := by
  have hask : (Session.ask (.lint visit.file) (engine.lint visit.file)).run ⟨between, sink⟩
      = ⟨.ok visit.report, ⟨last, sink⟩, .asked (.lint visit.file) :: linted⟩ := by
    rw [Session.run_ask, hlint]
  -- The world is not touched by what is written, and the sink not by what is asked.
  have hwrite : (Session.onSink (do
        reportKept engine.style visit.kept
        engine.style.fileFinished visit.file visit.kept)).run ⟨last, sink⟩
      = ⟨.ok (), ⟨last, sink.after (Style.bytesOf (engine.style.block visit.file visit.kept))⟩,
          []⟩ := by
    rw [Session.run_onSink, Style.run_report_of_hasRoom hroom hflush]
  rw [run_check_of_diff sink hdiff, Attempt.run_bind_of_ok hask]
  simp only [Visit.kept_eq, Attempt.run_bind_of_ok hwrite, Attempt.run_pure]
  simp [Visit.trace]

/-! ## Section 4: One file after the other -/

/-- The visits can be made one after the other from a world on: all calls succeed.  They leave
the last world and the trace. -/
inductive Passes (engine : Engine W) (provider : Vcs.Provider W) :
    W → List Visit → W → List Event → Prop where
  | nil (world : W) : Passes engine provider world [] world []
  | cons {visit : Visit} {visits : List Visit} {world between next last : W}
      {looked linted events : List Event}
      (diff : (provider.changedLines visit.file).run world = ⟨.ok visit.lines, between, looked⟩)
      (lint : (engine.lint visit.file).run between = ⟨.ok visit.report, next, linted⟩)
      (rest : Passes engine provider next visits last events) :
      Passes engine provider world (visit :: visits) last
        (Visit.trace visit.file visit.lines looked linted ++ events)

/-- After a file that was checked, the run goes on with the other files and adds up. -/
theorem run_checkAll_cons_of_ok {file : String} {files : List String} {session next : Session W}
    {here : Nat} {events : List Event}
    (h : (engine.check provider file).run session = ⟨.ok here, next, events⟩) :
    (engine.checkAll provider (file :: files)).run session =
      (((engine.checkAll provider files).run next).reshape (here + ·)).behind events := by
  rw [checkAll, Attempt.run_bind_of_ok h, Attempt.run_bind_pure]

/-- A file whose check fails ends the run. -/
theorem run_checkAll_cons_of_error {file : String} (files : List String)
    {session next : Session W} {error : Error} {events : List Event}
    (h : (engine.check provider file).run session = ⟨.error error, next, events⟩) :
    (engine.checkAll provider (file :: files)).run session = ⟨.error error, next, events⟩ := by
  rw [checkAll, Attempt.run_bind_of_error h]

/-- Visits that can be made are counted, write their blocks, and leave the run to the files
behind them. -/
theorem run_checkAll_append {visits : List Visit} {world last : W} {events : List Event}
    (h : engine.Passes provider world visits last events) (rest : List String) {sink : Sink}
    (hroom : sink.HasRoom (engine.style.report visits))
    (hflush : visits = [] ∨ sink.flushFault = none) :
    (engine.checkAll provider (visits.map Visit.file ++ rest)).run ⟨world, sink⟩ =
      (((engine.checkAll provider rest).run
        ⟨last, sink.after (engine.style.report visits)⟩).reshape
          (Visit.count visits + ·)).behind events := by
  -- The sink after some visits is `sink.after` of their report; that is all that the next
  -- visit has to know about the visits before it.
  induction h generalizing sink with
  | nil world =>
    have hcount : (Visit.count [] + ·) = (id : Nat → Nat) := by
      funext n
      simp [Visit.count]
    have hreport : engine.style.report [] = [] := rfl
    rw [hreport, Sink.after_nil, hcount, Reply.reshape_id, Reply.behind_nil]
    rfl
  | @cons visit visits world between next last looked linted events hdiff hlint _ ih =>
    -- There is a visit, so the sink has no fault to give when it is flushed.
    have hsink : sink.flushFault = none := by
      rcases hflush with h | h
      · exact absurd h (List.cons_ne_nil _ _)
      · exact h
    have hreport : engine.style.report (visit :: visits)
        = Style.bytesOf (engine.style.block visit.file visit.kept)
          ++ engine.style.report visits := List.flatMap_cons
    -- The sum is built from the last visit to the first, so the counts are composed.
    have hcount : (Visit.count (visit :: visits) + ·)
        = (visit.kept.length + ·) ∘ (Visit.count visits + ·) := by
      funext n
      simp [Visit.count, Nat.add_assoc]
    rw [hreport] at hroom ⊢
    have hcheck := run_check_of_visit hdiff hlint hroom.of_append_left hsink
    have hrest := ih hroom.of_append_right (Or.inr hsink)
    rw [List.map_cons, List.cons_append, run_checkAll_cons_of_ok hcheck, hrest,
      Sink.after_append, hcount, Reply.reshape_behind, Reply.reshape_reshape,
      Reply.behind_behind]

/-! ## Section 5: A whole run -/

/-- The trace of a run up to its first visit, given what listing the files left behind. -/
def opening (engine : Engine W) (provider : Vcs.Provider W) (listed : List Event) :
    List Event :=
  .logged ⟨.debug, .engine, "using " ++ provider.name ++ " in " ++ engine.dir⟩ ::
    .asked (.changedFiles provider.name) :: listed

/-- The trace of a run behind its last visit. -/
def closing (total : Nat) : List Event :=
  [.logged ⟨.debug, .engine, Text.Decimal.text total ++ " violation(s) on changed lines"⟩]

/-- If the files cannot be listed, the run ends there. -/
theorem run_runOver_of_listing_error {world between : W} {error : Error} {listed : List Event}
    (sink : Sink) (h : provider.changedFiles.run world = ⟨.error error, between, listed⟩) :
    (engine.runOver provider).run ⟨world, sink⟩
      = ⟨.error error, ⟨between, sink⟩, engine.opening provider listed⟩ := by
  have hask : (Session.ask (.changedFiles provider.name) provider.changedFiles).run ⟨world, sink⟩
      = ⟨.error error, ⟨between, sink⟩, .asked (.changedFiles provider.name) :: listed⟩ := by
    rw [Session.run_ask, h]
  unfold runOver
  rw [Attempt.run_bind_of_ok (run_log ..), Attempt.run_bind_of_error hask]
  rfl

/-- Once the files are listed, they are checked and the total decides. -/
theorem run_runOver_of_listing {files : List String} {world between : W} {listed : List Event}
    (sink : Sink) (h : provider.changedFiles.run world = ⟨.ok files, between, listed⟩) :
    (engine.runOver provider).run ⟨world, sink⟩ =
      ((do
        let total ← engine.checkAll provider files
        log .debug (Text.Decimal.text total ++ " violation(s) on changed lines")
        pure (total == 0) : Attempt (Session W) Bool).run ⟨between, sink⟩).behind
      (engine.opening provider listed) := by
  have hask : (Session.ask (.changedFiles provider.name) provider.changedFiles).run ⟨world, sink⟩
      = ⟨.ok files, ⟨between, sink⟩, .asked (.changedFiles provider.name) :: listed⟩ := by
    rw [Session.run_ask, h]
  unfold runOver
  rw [Attempt.run_bind_of_ok (run_log ..), Attempt.run_bind_of_ok hask, Reply.behind_behind]
  rfl

/-- A run in which all visits can be made writes their blocks, and it is clean if none of them
found anything. -/
theorem run_runOver_of_passes {visits : List Visit} {world between last : W}
    {listed events : List Event} {sink : Sink}
    (hfiles : provider.changedFiles.run world = ⟨.ok (visits.map Visit.file), between, listed⟩)
    (hpass : engine.Passes provider between visits last events)
    (hroom : sink.HasRoom (engine.style.report visits))
    (hflush : visits = [] ∨ sink.flushFault = none) :
    (engine.runOver provider).run ⟨world, sink⟩
      = ⟨.ok (decide (∀ visit ∈ visits, visit.kept = [])),
          ⟨last, sink.after (engine.style.report visits)⟩,
          engine.opening provider listed ++ events ++ closing (Visit.count visits)⟩ := by
  have hnone (session : Session W) :
      (engine.checkAll provider []).run session = ⟨.ok 0, session, []⟩ := rfl
  -- No file is behind the visits, so the sum is what they count.
  have hall := run_checkAll_append hpass [] hroom hflush
  rw [List.append_nil, hnone, Reply.reshape_ok, Reply.behind_mk, List.append_nil,
    Nat.add_zero] at hall
  -- Counting nothing and keeping nothing are the same.
  have hclean : (Visit.count visits == 0) = decide (∀ visit ∈ visits, visit.kept = []) := by
    rw [Bool.eq_iff_iff, decide_eq_true_iff, ← Visit.count_eq_zero_iff, beq_iff_eq]
  rw [run_runOver_of_listing sink hfiles, Attempt.run_bind_of_ok hall,
    Attempt.run_bind_of_ok (run_log ..), Attempt.run_pure, hclean]
  simp [closing]

/-- A run in which some visits can be made and the check of the next file fails writes the
blocks of the visits and reports that failure. -/
theorem run_runOver_of_check_error {visits : List Visit} {file : String} {files : List String}
    {world between last : W} {next : Session W} {error : Error}
    {listed events failed : List Event} {sink : Sink}
    (hfiles : provider.changedFiles.run world
      = ⟨.ok (visits.map Visit.file ++ file :: files), between, listed⟩)
    (hpass : engine.Passes provider between visits last events)
    (hroom : sink.HasRoom (engine.style.report visits))
    (hflush : visits = [] ∨ sink.flushFault = none)
    (hcheck : (engine.check provider file).run ⟨last, sink.after (engine.style.report visits)⟩
      = ⟨.error error, next, failed⟩) :
    (engine.runOver provider).run ⟨world, sink⟩
      = ⟨.error error, next, engine.opening provider listed ++ events ++ failed⟩ := by
  -- The failing file is the first one behind the visits.
  have hall := run_checkAll_append hpass (file :: files) hroom hflush
  rw [run_checkAll_cons_of_error files hcheck, Reply.reshape_error, Reply.behind_mk] at hall
  rw [run_runOver_of_listing sink hfiles, Attempt.run_bind_of_error hall, Reply.behind_mk,
    List.append_assoc]

/-- Once a provider is picked, the run is one over it. -/
theorem run_runWith_of_choice {providers : List (Vcs.Provider W)} {world between : W}
    {chosen : List Event} (sink : Sink)
    (h : (Vcs.Provider.choose engine.vcs providers).run world = ⟨.ok provider, between, chosen⟩) :
    (engine.runWith providers).run ⟨world, sink⟩
      = ((engine.runOver provider).run ⟨between, sink⟩).behind chosen := by
  have hchoose : (Session.onWorld (Vcs.Provider.choose engine.vcs providers)).run ⟨world, sink⟩
      = ⟨.ok provider, ⟨between, sink⟩, chosen⟩ := by
    rw [Session.run_onWorld, h]
  exact Attempt.run_bind_of_ok hchoose

end

/-- A run in which no call fails keeps for each file the findings of its report that are on
its changed lines, writes the blocks of the files in the order of the listing and nothing
else, and is clean exactly if nothing was kept. -/
theorem runWith_reports_kept (engine : Engine W) (providers : List (Vcs.Provider W))
    (provider : Vcs.Provider W) (visits : List Visit) (sink : Sink)
    {world chosenIn listedIn last : W} {chosen listed events : List Event}
    (hchoose : (Vcs.Provider.choose engine.vcs providers).run world
      = ⟨.ok provider, chosenIn, chosen⟩)
    (hfiles : provider.changedFiles.run chosenIn
      = ⟨.ok (visits.map Visit.file), listedIn, listed⟩)
    (hpass : engine.Passes provider listedIn visits last events)
    (hroom : sink.HasRoom (engine.style.report visits))
    (hflush : visits = [] ∨ sink.flushFault = none) :
    let reply := (engine.runWith providers).run ⟨world, sink⟩
    reply.answer = .ok (decide (∀ visit ∈ visits, visit.kept = [])) ∧
      reply.world.sink.written = sink.written ++ engine.style.report visits ∧
      reply.world.world = last := by
  -- Choice, listing and visits, each of which is known to succeed.
  rw [run_runWith_of_choice sink hchoose, run_runOver_of_passes hfiles hpass hroom hflush]
  exact ⟨rfl, rfl, rfl⟩

/-! A provider that lists one file twice and finds a changed line in it the first time only;
its world counts the questions. -/

namespace Recount

/-- Answers a question and counts it. -/
def counted (answer : Nat → α) : Attempt Nat α := .mk fun n => ⟨.ok (answer n), n + 1, []⟩

def provider : Vcs.Provider Nat where
  name := "git"
  isUsed := pure true
  changedFiles := counted fun _ => ["a.py", "a.py"]
  changedLines _ := counted fun n => if n = 1 then .ofList ["9"] else ∅

def report : String := "a.py:9:1: E5 x\na.py:09:1: E5 x\n"

def engine : Engine Nat where
  vcs := none
  dir := "work"
  style := ⟨.off, .grouped⟩
  lint _ := counted fun _ => report

def visits : List Visit := [⟨"a.py", .ofList ["9"], report⟩, ⟨"a.py", ∅, report⟩]

end Recount

theorem runWith_reports_kept_repeated :
    let reply := (Recount.engine.runWith [Recount.provider]).run ⟨0, .unlimited⟩
    reply.answer = .ok false ∧
      reply.world.sink.written
        = Text.Utf8.bytes "Found violations: a.py\n\tE5 @ 9:1 - x\n" ∧
      reply.world.world = 5 := by
  -- Both visits are computed; the world of the second is the one that the first left.
  have hpass : Recount.engine.Passes Recount.provider 1 Recount.visits 5 _ :=
    .cons rfl rfl (.cons rfl rfl (.nil 5))
  obtain ⟨hanswer, hwritten, hworld⟩ := runWith_reports_kept Recount.engine [Recount.provider]
    Recount.provider Recount.visits .unlimited rfl rfl hpass (by intro limit h; cases h) (.inr rfl)
  have hfound : decide (∀ visit ∈ Recount.visits, visit.kept = []) = false := by decide +kernel
  refine ⟨hanswer.trans (congrArg Except.ok hfound), hwritten.trans ?_, hworld⟩
  decide +kernel

end Engine

end ChangeLint
