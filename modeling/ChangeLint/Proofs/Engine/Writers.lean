import ChangeLint.Proofs.Engine.Calls

/-! # Writers that fail

A run is compared with the run of the same engine whose writer takes everything.

* A writer that is full after some bytes cuts the report at that byte, wherever in a line it
  is, and the run ends there with the fault of the writer.
* A writer that cannot be flushed ends the run behind its first file. -/

namespace ChangeLint

open Report (Sink Style)

/-! ## Section 1: Flushing -/

namespace Report

theorem Sink.run_flush_of_some {sink : Sink} {fault : String} (h : sink.flushFault = some fault) :
    Sink.flush.run sink = ⟨.error (.io fault), sink, []⟩ := by
  simp [Sink.flush, Attempt.run, Attempt.mk, Act.run, ExceptT.run, ExceptT.mk, h]

/-- A file that is reported to a sink that cannot be flushed leaves its block there. -/
theorem Style.run_report_of_flushFault {style : Style} {file fault : String}
    {findings : List Finding} {sink : Sink}
    (hroom : sink.HasRoom (Style.bytesOf (style.block file findings)))
    (hflush : sink.flushFault = some fault) :
    (do Engine.reportKept style findings; style.fileFinished file findings).run sink
      = ⟨.error (.io fault), sink.after (Style.bytesOf (style.block file findings)), []⟩ := by
  -- The lines are written first, and only then does the flush fail.
  have hdone : (sink.after (Style.bytesOf (style.block file findings))).flushFault
      = some fault := by
    rw [Sink.flushFault_after, hflush]
  rw [Style.reportKept_fileFinished]
  rw [Attempt.run_bind_of_ok (Style.run_writeAll_of_hasRoom hroom), Sink.run_flush_of_some hdone]
  rfl

end Report

namespace Engine

section

variable {engine : Engine W} {provider : Vcs.Provider W}

/-- The check of a file whose two calls succeed fails with the flush, behind the whole block. -/
theorem run_check_of_flushFault {visit : Visit} {world between last : W}
    {looked linted : List Event} (sink : Sink) {fault : String}
    (hdiff : (provider.changedLines visit.file).run world = ⟨.ok visit.lines, between, looked⟩)
    (hlint : (engine.lint visit.file).run between = ⟨.ok visit.report, last, linted⟩)
    (hroom : sink.HasRoom (Style.bytesOf (engine.style.block visit.file visit.kept)))
    (hflush : sink.flushFault = some fault) :
    (engine.check provider visit.file).run ⟨world, sink⟩
      = ⟨.error (.io fault),
          ⟨last, sink.after (Style.bytesOf (engine.style.block visit.file visit.kept))⟩,
          Visit.trace visit.file visit.lines looked linted⟩ := by
  have hask : (Session.ask (.lint visit.file) (engine.lint visit.file)).run ⟨between, sink⟩
      = ⟨.ok visit.report, ⟨last, sink⟩, .asked (.lint visit.file) :: linted⟩ := by
    rw [Session.run_ask, hlint]
  -- Both calls succeed, so that the writer decides how the check ends.
  have hreport : (Session.onSink (do
        reportKept engine.style visit.kept
        engine.style.fileFinished visit.file visit.kept)).run ⟨last, sink⟩
      = ⟨.error (.io fault),
          ⟨last, sink.after (Style.bytesOf (engine.style.block visit.file visit.kept))⟩, []⟩ := by
    rw [Session.run_onSink, Style.run_report_of_flushFault hroom hflush]
  rw [run_check_of_diff sink hdiff, Attempt.run_bind_of_ok hask]
  simp only [Visit.kept_eq, Attempt.run_bind_of_error hreport]
  simp [Visit.trace]

end

/-! ## Section 2: Whole runs -/

/-- A writer that is full after `n` bytes gets the first `n` bytes of the report.  If these are
not all, the run ends with the fault of the writer, and until then it did what it does with
any writer.  A writer that cannot be flushed gets the block of the first file, even an empty
one, and the run ends there. -/
theorem runWith_of_failing_writer (engine : Engine W) (providers : List (Vcs.Provider W))
    (world : W) :
    let full := (engine.runWith providers).run ⟨world, .unlimited⟩
    let report := full.world.sink.written
    (∀ (n : Nat) (fault : String),
      let cut := (engine.runWith providers).run ⟨world, ⟨[], some ⟨n, fault⟩, none⟩⟩
      cut.world.sink.written = report.take n ∧
        cut.answer = (if report.length ≤ n then full.answer else .error (.io fault)) ∧
        cut.events <+: full.events ∧
        Event.queries cut.events <+: Event.queries full.events) ∧
    ∀ (fault : String) (provider : Vcs.Provider W) (visit : Visit) (files : List String)
        (chosenIn listedIn lookedIn lintedIn : W) (chosen listed looked linted : List Event),
      (Vcs.Provider.choose engine.vcs providers).run world = ⟨.ok provider, chosenIn, chosen⟩ →
      provider.changedFiles.run chosenIn = ⟨.ok (visit.file :: files), listedIn, listed⟩ →
      (provider.changedLines visit.file).run listedIn = ⟨.ok visit.lines, lookedIn, looked⟩ →
      (engine.lint visit.file).run lookedIn = ⟨.ok visit.report, lintedIn, linted⟩ →
      let stopped := (engine.runWith providers).run ⟨world, ⟨[], none, some fault⟩⟩
      stopped.answer = .error (.io fault) ∧
        stopped.world.sink.written = Style.bytesOf (engine.style.block visit.file visit.kept) ∧
        stopped.events = chosen ++ (engine.opening provider listed
          ++ Visit.trace visit.file visit.lines looked linted) := by
  intro full report
  obtain ⟨calls, visits, answer, after, hconducts⟩ := exists_conducts engine providers world
  obtain ⟨events, hstreams, _⟩ := streams_of_conducts hconducts
  -- The full run is the one on a sink without limit; what it writes is the report of the visits.
  have hfull : full
      = ⟨answer, ⟨after, Sink.unlimited.after (engine.style.report visits)⟩, events⟩ :=
    hstreams.fits .unlimited (Sink.hasRoom_of_no_limit rfl _) rfl
  have hreport : report = engine.style.report visits := by
    show full.world.sink.written = _
    rw [hfull]
    rfl
  constructor
  · intro n fault cut
    -- The report fits, or the writer is full somewhere in it.
    by_cases hfits : report.length ≤ n
    · have hcut : cut
          = ⟨answer, ⟨after, Sink.after ⟨[], some ⟨n, fault⟩, none⟩ report⟩, events⟩ := by
        rw [hreport] at hfits ⊢
        exact hstreams.fits ⟨[], some ⟨n, fault⟩, none⟩ (Sink.hasRoom_limited.mpr hfits) rfl
      rw [hcut, hfull, if_pos hfits, List.take_of_length_le hfits]
      exact ⟨rfl, rfl, List.prefix_rfl, List.prefix_rfl⟩
    · obtain ⟨between, front, hfront, hcut⟩ := hstreams.cut [] ⟨n, fault⟩ (by
        rw [← hreport]
        exact Nat.lt_of_not_le hfits)
      have hcut : cut = _ := hcut
      rw [hcut, hfull, if_neg hfits, hreport]
      exact ⟨rfl, rfl, hfront, hfront.filterMap Event.query?⟩
  · intro fault provider visit files chosenIn listedIn lookedIn lintedIn chosen listed looked
      linted hchoose hfiles hdiff hlint stopped
    -- No file was passed before the first one, and nothing is on the report yet.
    have hempty : Sink.after ⟨[], none, some fault⟩ (engine.style.report [])
        = ⟨[], none, some fault⟩ := Sink.after_nil _
    have hcheck := run_check_of_flushFault ⟨[], none, some fault⟩ hdiff hlint
      (Sink.hasRoom_of_no_limit rfl _) rfl
    rw [← hempty] at hcheck
    have hpass : Passes engine provider listedIn [] listedIn [] := .nil listedIn
    -- The check of the first file fails, and its failure ends the run.
    have hover := run_runOver_of_check_error hfiles hpass (Sink.hasRoom_of_no_limit rfl _)
      (.inl rfl) hcheck
    have hrun : stopped = _ := run_runWith_of_choice ⟨[], none, some fault⟩ hchoose
    rw [hrun, hover, Reply.behind_mk, List.append_nil]
    exact ⟨rfl, rfl, rfl⟩

theorem runWith_of_failing_writer_repeated :
    let stopped := (Recount.engine.runWith [Recount.provider]).run ⟨0, ⟨[], none, some "gone"⟩⟩
    stopped.answer = .error (.io "gone") ∧
      stopped.world.sink.written
        = Text.Utf8.bytes "Found violations: a.py\n\tE5 @ 9:1 - x\n" ∧
      Event.queries stopped.events
        = [.isUsed "git", .changedFiles "git", .changedLines "a.py", .lint "a.py"] := by
  obtain ⟨hanswer, hwritten, hevents⟩ :=
    (runWith_of_failing_writer Recount.engine [Recount.provider] 0).2 "gone" Recount.provider
      ⟨"a.py", .ofList ["9"], Recount.report⟩ ["a.py"] 0 1 2 3 _ _ _ _ rfl rfl rfl rfl
  refine ⟨hanswer, hwritten.trans ?_, (congrArg Event.queries hevents).trans rfl⟩
  decide +kernel

/-- A report that is cut within its second line, where two files would have been checked. -/
example :
    let cut := (Recount.engine.runWith [Recount.provider]).run ⟨0, ⟨[], some ⟨26, "full"⟩, none⟩⟩
    cut.world.sink.written = Text.Utf8.bytes "Found violations: a.py\n\tE5" ∧
      Event.queries cut.events
        = [.isUsed "git", .changedFiles "git", .changedLines "a.py", .lint "a.py"] := by
  decide +kernel

end Engine

end ChangeLint
