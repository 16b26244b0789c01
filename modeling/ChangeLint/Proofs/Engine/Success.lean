import ChangeLint.Proofs.Engine.Calls

/-! # Runs that succeed

A run that answers anything but a failure has come through all its calls and all its writes,
whatever sink it wrote to.

* The lemmas of the form `…_of_ok` read off an answer what must have happened before it, from a
  single write up to the files of a run.
* `exists_conducts_of_ok` says what is known of a whole run from its answer.
* `Conducts.withStyle` says that calls do not depend on how a report is written. -/

namespace ChangeLint

open Report (Sink Style)

/-! ## Section 1: Writes -/

namespace Report

theorem Sink.HasRoom.append {sink : Sink} {a b : List UInt8} (ha : sink.HasRoom a)
    (hb : (sink.after a).HasRoom b) : sink.HasRoom (a ++ b) := by
  intro limit hlimit
  have hfirst := ha limit hlimit
  have hsecond : b.length ≤ limit.room - a.length := by
    apply hb { limit with room := limit.room - a.length }
    exact Option.map_eq_some_iff.mpr ⟨limit, hlimit, rfl⟩
  rw [List.length_append]
  omega

/-- A write that succeeds had room. -/
theorem Sink.hasRoom_of_ok {bytes : List UInt8} {sink : Sink}
    (h : ((writeBytes bytes).run sink).answer = .ok ()) : sink.HasRoom bytes := by
  intro limit hlimit
  apply Decidable.byContradiction
  intro hfull
  simp [writeBytes, Attempt.run, Attempt.mk, Act.run, ExceptT.run, ExceptT.mk,
    Option.mem_def.mp hlimit, hfull] at h

theorem Sink.flushFault_of_ok {sink : Sink} (h : (flush.run sink).answer = .ok ()) :
    sink.flushFault = none := by
  cases hfault : sink.flushFault with
  | none => rfl
  | some fault =>
    simp [flush, Attempt.run, Attempt.mk, Act.run, ExceptT.run, ExceptT.mk, hfault] at h

namespace Style

theorem hasRoom_of_ok {lines : List String} {sink : Sink}
    (h : ((writeAll lines).run sink).answer = .ok ()) : sink.HasRoom (bytesOf lines) := by
  induction lines generalizing sink with
  | nil => exact fun limit _ => Nat.zero_le limit.room
  | cons line lines ih =>
    have hbytes : bytesOf (line :: lines) = Text.Utf8.bytes line ++ bytesOf lines :=
      List.flatMap_cons
    obtain ⟨_, between, _, hline, hlines⟩ := Attempt.ok_of_run_bind h
    have hroom : sink.HasRoom (Text.Utf8.bytes line) := by
      apply Sink.hasRoom_of_ok
      show ((Sink.write line).run sink).answer = _
      rw [hline]
    -- What the first line leaves is known, since there was room for it.
    have hafter : between = sink.after (Text.Utf8.bytes line) := by
      have hrun := Sink.run_writeBytes_of_hasRoom hroom
      rw [show Sink.writeBytes (Text.Utf8.bytes line) = Sink.write line from rfl, hline] at hrun
      exact congrArg Reply.world hrun
    rw [hbytes]
    exact hroom.append (ih (hafter ▸ hlines))

/-- A file that is reported without failure had room for its block, on a sink that can be
flushed. -/
theorem hasRoom_of_report_ok {style : Style} {file : String} {findings : List Finding}
    {sink : Sink}
    (h : ((do Engine.reportKept style findings; style.fileFinished file findings).run
      sink).answer = .ok ()) :
    sink.HasRoom (bytesOf (style.block file findings)) ∧ sink.flushFault = none := by
  rw [reportKept_fileFinished] at h
  obtain ⟨_, between, _, hlines, hflush⟩ := Attempt.ok_of_run_bind h
  have hroom : sink.HasRoom (bytesOf (style.block file findings)) := by
    apply hasRoom_of_ok
    rw [hlines]
  -- The flush is asked of the sink behind the block, and answers as the sink before it would.
  have hafter : between = sink.after (bytesOf (style.block file findings)) := by
    have hrun := run_writeAll_of_hasRoom hroom
    rw [hlines] at hrun
    exact congrArg Reply.world hrun
  rw [hafter] at hflush
  have hfault := Sink.flushFault_of_ok hflush
  rw [Sink.flushFault_after] at hfault
  exact ⟨hroom, hfault⟩

end Style

end Report

/-! ## Section 2: Files -/

theorem Session.answer_onSink (attempt : Attempt Sink α) (session : Session W) :
    ((Session.onSink attempt).run session).answer = (attempt.run session.sink).answer := rfl

namespace Engine

section

variable {engine : Engine W} {provider : Vcs.Provider W}

/-- A check that succeeds is a visit: both calls succeeded, and there was room for the block. -/
theorem exists_visit_of_ok {file : String} {world : W} {sink : Sink} {n : Nat}
    (h : ((engine.check provider file).run ⟨world, sink⟩).answer = .ok n) :
    ∃ (visit : Visit) (between last : W) (looked linted : List Event),
      visit.file = file ∧
      (provider.changedLines visit.file).run world = ⟨.ok visit.lines, between, looked⟩ ∧
      (engine.lint visit.file).run between = ⟨.ok visit.report, last, linted⟩ ∧
      sink.HasRoom (Style.bytesOf (engine.style.block visit.file visit.kept)) ∧
      sink.flushFault = none := by
  -- Either call might fail, and then the check would; so both are known to have succeeded.
  cases hdiff : (provider.changedLines file).run world with
  | mk answer between looked =>
    cases answer with
    | error error =>
      rw [run_check_of_diff_error sink hdiff] at h
      cases h
    | ok lines =>
      cases hlint : (engine.lint file).run between with
      | mk answer last linted =>
        cases answer with
        | error error =>
          rw [run_check_of_lint_error sink hdiff hlint] at h
          cases h
        | ok report =>
          refine ⟨⟨file, lines, report⟩, between, last, looked, linted, rfl, hdiff, hlint, ?_⟩
          -- The report is obtained, so what is left of the check is to write the block.
          have hask : (Session.ask (.lint file) (engine.lint file)).run ⟨between, sink⟩
              = ⟨.ok report, ⟨last, sink⟩, .asked (.lint file) :: linted⟩ := by
            rw [Session.run_ask, hlint]
          rw [run_check_of_diff sink hdiff, Attempt.run_bind_of_ok hask, Reply.answer_behind,
            Reply.answer_behind] at h
          obtain ⟨_, _, _, hreport, _⟩ := Attempt.ok_of_run_bind h
          have hwrite : ((do
              reportKept engine.style (Visit.kept ⟨file, lines, report⟩)
              engine.style.fileFinished file (Visit.kept ⟨file, lines, report⟩)).run sink).answer
              = .ok () := by
            rw [← Visit.kept_eq, ← Session.answer_onSink _ ⟨last, sink⟩, hreport]
          exact Style.hasRoom_of_report_ok hwrite

/-- Files whose checks all succeed are visited one after the other. -/
theorem exists_passes_of_ok {files : List String} {world : W} {sink : Sink} {total : Nat}
    (h : ((engine.checkAll provider files).run ⟨world, sink⟩).answer = .ok total) :
    ∃ visits last events, files = visits.map Visit.file ∧
      engine.Passes provider world visits last events ∧
      sink.HasRoom (engine.style.report visits) ∧
      (visits = [] ∨ sink.flushFault = none) := by
  induction files generalizing world sink total with
  | nil => exact ⟨[], world, [], rfl, .nil world, fun limit _ => Nat.zero_le limit.room, Or.inl rfl⟩
  | cons file files ih =>
    obtain ⟨_, session, _, hcheck, hrest⟩ := Attempt.ok_of_run_bind h
    obtain ⟨_, _, _, hall, _⟩ := Attempt.ok_of_run_bind hrest
    obtain ⟨visit, between, last, looked, linted, rfl, hdiff, hlint, hroom, hflush⟩ :=
      exists_visit_of_ok (congrArg Reply.answer hcheck)
    -- Where the first check left the sink is known, so that the others start from there.
    have hsession : session
        = ⟨last, sink.after (Style.bytesOf (engine.style.block visit.file visit.kept))⟩ := by
      rw [run_check_of_visit hdiff hlint hroom hflush] at hcheck
      exact (congrArg Reply.world hcheck).symm
    rw [hsession] at hall
    obtain ⟨visits, final, events, rfl, hpass, hrooms, _⟩ := ih (congrArg Reply.answer hall)
    have hreport : engine.style.report (visit :: visits)
        = Style.bytesOf (engine.style.block visit.file visit.kept)
          ++ engine.style.report visits := List.flatMap_cons
    refine ⟨visit :: visits, final, _, rfl, .cons hdiff hlint hpass, ?_, Or.inr hflush⟩
    rw [hreport]
    exact hroom.append hrooms

/-- Visits that can be made are calls of which none fails. -/
theorem Passes.exists_checks {visits : List Visit} {world last : W} {events : List Event}
    (h : engine.Passes provider world visits last events) :
    ∃ calls, Checks engine provider world (visits.map Visit.file) calls visits none last := by
  induction h with
  | nil world => exact ⟨[], .done world⟩
  | cons diff lint _ ih =>
    obtain ⟨calls, hcalls⟩ := ih
    exact ⟨_, .visited diff lint hcalls⟩

end

/-! ## Section 3: Whole runs -/

/-- A run that succeeds, on any sink: its calls are those of a run in which none fails, and what
it adds to the sink are the blocks of the files that it visits. -/
theorem exists_conducts_of_ok {engine : Engine W} {providers : List (Vcs.Provider W)} {world : W}
    {sink : Sink} {clean : Bool}
    (h : ((engine.runWith providers).run ⟨world, sink⟩).answer = .ok clean) :
    ∃ calls visits after,
      Conducts engine providers world calls visits (.ok clean) after ∧
      ((engine.runWith providers).run ⟨world, sink⟩).world
        = ⟨after, sink.after (engine.style.report visits)⟩ := by
  -- The choice, the listing and the files succeed one after the other.
  obtain ⟨probes, choice, chosenIn, hselects⟩ :=
    Vcs.Provider.exists_selects world providers engine.vcs
  have hchoose := Vcs.Provider.run_choose_of_selects hselects
  obtain ⟨provider, session, chosen, hprovider, hover⟩ := Attempt.ok_of_run_bind h
  rw [Session.run_onWorld, hchoose] at hprovider
  cases hprovider
  cases hlisting : provider.changedFiles.run chosenIn with
  | mk answer listedIn listed =>
    cases answer with
    | error error =>
      rw [run_runOver_of_listing_error sink hlisting] at hover
      cases hover
    | ok files =>
      have hfiles := hover
      rw [run_runOver_of_listing sink hlisting] at hfiles
      obtain ⟨_, _, _, hall, _⟩ := Attempt.ok_of_run_bind hfiles
      obtain ⟨visits, last, events, rfl, hpass, hroom, hflush⟩ :=
        exists_passes_of_ok (congrArg Reply.answer hall)
      obtain ⟨calls, hchecks⟩ := hpass.exists_checks
      -- Forwards again: the passes found give the run, and it is the one at hand.
      have hrun := run_runOver_of_passes hlisting hpass hroom hflush
      rw [hrun] at hover
      cases hover
      refine ⟨_, visits, last, .finished hselects hlisting hchecks, ?_⟩
      rw [run_runWith_of_choice sink hchoose, hrun]
      rfl

/-! ## Section 4: Runs are determined -/

/-- What the check of some files visits is decided by the world, and so is how it ends. -/
theorem Checks.unique {engine : Engine W} {provider : Vcs.Provider W} {world after other : W}
    {files : List String} {calls more : List Call} {visits others : List Visit}
    {stopped ended : Option Error}
    (h : Checks engine provider world files calls visits stopped after)
    (h' : Checks engine provider world files more others ended other) :
    visits = others ∧ stopped = ended ∧ after = other := by
  -- By induction on the first derivation; each call has one answer in its world, which rules out
  -- the other cases.
  induction h generalizing more others ended other with
  | done world =>
    cases h'
    exact ⟨rfl, rfl, rfl⟩
  | undiffed diff files =>
    -- The other derivation obtains the same changed lines, so it ends in the same way.
    cases h' with
    | undiffed diff' =>
      cases diff.symm.trans diff'
      exact ⟨rfl, rfl, rfl⟩
    | unlinted diff' =>
      cases diff.symm.trans diff'
    | visited diff' =>
      cases diff.symm.trans diff'
  | unlinted diff lint files =>
    cases h' with
    | undiffed diff' =>
      cases diff.symm.trans diff'
    | unlinted diff' lint' =>
      cases diff.symm.trans diff'
      cases lint.symm.trans lint'
      exact ⟨rfl, rfl, rfl⟩
    | visited diff' lint' =>
      cases diff.symm.trans diff'
      cases lint.symm.trans lint'
  | visited diff lint _ ih =>
    cases h' with
    | undiffed diff' =>
      cases diff.symm.trans diff'
    | unlinted diff' lint' =>
      cases diff.symm.trans diff'
      cases lint.symm.trans lint'
    | visited diff' lint' rest' =>
      cases diff.symm.trans diff'
      cases lint.symm.trans lint'
      obtain ⟨hvisits, hstopped, hafter⟩ := ih rest'
      exact ⟨by rw [hvisits], hstopped, hafter⟩

/-- The files that a successful run visits are decided by the world. -/
theorem Conducts.visits_unique {engine : Engine W} {providers : List (Vcs.Provider W)}
    {world after other : W} {calls more : List Call} {visits others : List Visit}
    {clean clear : Bool} (h : Conducts engine providers world calls visits (.ok clean) after)
    (h' : Conducts engine providers world more others (.ok clear) other) : visits = others := by
  cases h with
  | finished selection listing checks =>
    cases h' with
    | finished selection' listing' checks' =>
      -- The same provider was chosen in the same world, and so the same files are listed.
      have hchoose := Vcs.Provider.run_choose_of_selects selection
      rw [Vcs.Provider.run_choose_of_selects selection'] at hchoose
      obtain ⟨hprovider, hbetween, _⟩ := Reply.mk.inj hchoose
      cases hprovider
      cases hbetween
      cases listing.symm.trans listing'
      exact (checks.unique checks').1

/-! ## Section 5: Other styles -/

/-- The engine with another style. -/
def withStyle (engine : Engine W) (style : Style) : Engine W := { engine with style := style }

/-- The calls for some files do not depend on the style. -/
theorem Checks.withStyle {engine : Engine W} {provider : Vcs.Provider W} {world after : W}
    {files : List String} {calls : List Call} {visits : List Visit} {stopped : Option Error}
    (h : Checks engine provider world files calls visits stopped after) (style : Style) :
    Checks (engine.withStyle style) provider world files calls visits stopped after := by
  induction h with
  | done world => exact .done world
  | undiffed diff files => exact .undiffed diff files
  | unlinted diff lint files =>
    refine .unlinted diff ?_ files
    exact lint
  | visited diff lint _ ih => exact .visited diff lint ih

/-- So do those of a whole run, and what it answers. -/
theorem Conducts.withStyle {engine : Engine W} {providers : List (Vcs.Provider W)}
    {world after : W} {calls : List Call} {visits : List Visit} {answer : Except Error Bool}
    (h : Conducts engine providers world calls visits answer after) (style : Style) :
    Conducts (engine.withStyle style) providers world calls visits answer after := by
  cases h with
  | unselected selection => exact .unselected selection
  | unlisted selection listing => exact .unlisted selection listing
  | stopped selection listing checks => exact .stopped selection listing (checks.withStyle style)
  | finished selection listing checks => exact .finished selection listing (checks.withStyle style)

/-- What a run comes to on a sink that takes everything. -/
theorem run_of_conducts {engine : Engine W} {providers : List (Vcs.Provider W)}
    {world after : W} {calls : List Call} {visits : List Visit} {answer : Except Error Bool}
    (h : Conducts engine providers world calls visits answer after) :
    ∃ events, (engine.runWith providers).run ⟨world, .unlimited⟩
      = ⟨answer, ⟨after, Sink.unlimited.after (engine.style.report visits)⟩, events⟩ := by
  obtain ⟨events, hstreams, _⟩ := streams_of_conducts h
  exact ⟨events, hstreams.fits .unlimited (Sink.hasRoom_of_no_limit rfl _) rfl⟩

end Engine

end ChangeLint
