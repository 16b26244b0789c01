import ChangeLint.Proofs.Engine.Success
import ChangeLint.Proofs.Report.Painting

/-! # Runs that differ in their theme

The theme is used for writing only, and on a sink that takes everything nothing depends on what
was written.  So two runs that differ in nothing but the theme do the same, and what one of them
writes is what the other one writes in another emphasis.

* `Alike` compares two attempts: they do the same but for what they leave on their sinks.
* `check_alike` is one file, `checkAll_alike` the induction on the files, and `runWith_alike` a
  run.
* `runWith_themes` adds what the two reports have to do with each other. -/

namespace ChangeLint

open Report (Sink Style Theme)

/-! ## Section 1: Attempts that differ in what they write -/

/-- On sinks that take everything, whatever is on them, the two attempts answer the same, leave
the same world, and have the same trace. -/
def Alike (a b : Attempt (Session W) α) : Prop :=
  ∀ (world : W) (x y : List UInt8), ∃ answer last events x' y',
    a.run ⟨world, ⟨x, none, none⟩⟩ = ⟨answer, ⟨last, ⟨x', none, none⟩⟩, events⟩ ∧
    b.run ⟨world, ⟨y, none, none⟩⟩ = ⟨answer, ⟨last, ⟨y', none, none⟩⟩, events⟩

namespace Alike

/-- An attempt that leaves the sink alone is like itself. -/
theorem of_run {attempt : Attempt (Session W) α}
    (h : ∀ world, ∃ answer last events, ∀ sink,
      attempt.run ⟨world, sink⟩ = ⟨answer, ⟨last, sink⟩, events⟩) : Alike attempt attempt := by
  intro world x y
  obtain ⟨answer, last, events, hrun⟩ := h world
  exact ⟨answer, last, events, x, y, hrun ⟨x, none, none⟩, hrun ⟨y, none, none⟩⟩

/-- Two attempts on the sink are alike if both can only succeed there. -/
theorem of_onSink {a b : Attempt Sink Unit}
    (ha : ∀ x, ∃ x', a.run ⟨x, none, none⟩ = ⟨.ok (), ⟨x', none, none⟩, []⟩)
    (hb : ∀ y, ∃ y', b.run ⟨y, none, none⟩ = ⟨.ok (), ⟨y', none, none⟩, []⟩) :
    Alike (Session.onSink a : Attempt (Session W) Unit) (Session.onSink b) := by
  intro world x y
  obtain ⟨x', hx⟩ := ha x
  obtain ⟨y', hy⟩ := hb y
  refine ⟨.ok (), world, [], x', y', ?_, ?_⟩
  · rw [Session.run_onSink, hx]
  · rw [Session.run_onSink, hy]

/-- Attempts that go on alike after parts that are alike. -/
theorem bind {a b : Attempt (Session W) α} {next more : α → Attempt (Session W) β}
    (h : Alike a b) (hnext : ∀ answer, Alike (next answer) (more answer)) :
    Alike (a >>= next) (b >>= more) := by
  intro world x y
  obtain ⟨answer, between, events, x', y', ha, hb⟩ := h world x y
  -- The answers are the same, so that both attempts end here or both go on.
  cases answer with
  | error error =>
    exact ⟨.error error, between, events, x', y', Attempt.run_bind_of_error ha,
      Attempt.run_bind_of_error hb⟩
  | ok answer =>
    obtain ⟨final, last, rest, x'', y'', hc, hd⟩ := hnext answer between x' y'
    refine ⟨final, last, events ++ rest, x'', y'', ?_, ?_⟩
    · rw [Attempt.run_bind_of_ok ha, hc, Reply.behind_mk]
    · rw [Attempt.run_bind_of_ok hb, hd, Reply.behind_mk]

theorem pure (a : α) : Alike (Pure.pure a : Attempt (Session W) α) (Pure.pure a) :=
  of_run fun world => ⟨.ok a, world, [], fun _ => rfl⟩

/-- What goes on in the world does not depend on the sink. -/
theorem onWorld (attempt : Attempt W α) :
    Alike (Session.onWorld attempt) (Session.onWorld attempt) := by
  -- The answer is that of the attempt in the world alone, whatever is on the sink.
  apply of_run
  intro world
  refine ⟨(attempt.run world).answer, (attempt.run world).world, (attempt.run world).events, ?_⟩
  intro sink
  exact Session.run_onWorld attempt ⟨world, sink⟩

theorem ask (query : Query) (attempt : Attempt W α) :
    Alike (Session.ask query attempt) (Session.ask query attempt) := by
  apply of_run
  intro world
  refine ⟨(attempt.run world).answer, (attempt.run world).world,
    .asked query :: (attempt.run world).events, ?_⟩
  intro sink
  exact Session.run_ask query attempt ⟨world, sink⟩

theorem log (level : Level) (text : String) :
    Alike (Engine.log level text : Attempt (Session W) Unit) (Engine.log level text) :=
  of_run fun world => ⟨.ok (), world, _, fun _ => Engine.run_log level text _⟩

end Alike

/-! ## Section 2: Runs in two themes -/

namespace Engine

/-- Whatever lines are written to a sink that takes everything, nothing but the sink differs. -/
theorem writeAll_alike (lines others : List String) :
    Alike (Session.onSink (Style.writeAll lines) : Attempt (Session W) Unit)
      (Session.onSink (Style.writeAll others)) := by
  -- A sink without limit takes any lines.
  have hrun : ∀ (lines : List String) (x : List UInt8), ∃ x',
      (Style.writeAll lines).run ⟨x, none, none⟩ = ⟨.ok (), ⟨x', none, none⟩, []⟩ :=
    fun _ _ => ⟨_, Style.run_writeAll_of_hasRoom (Sink.hasRoom_of_no_limit rfl _)⟩
  exact .of_onSink (hrun lines) (hrun others)

theorem flush_alike :
    Alike (Session.onSink Sink.flush : Attempt (Session W) Unit) (Session.onSink Sink.flush) := by
  have hrun : ∀ x : List UInt8, ∃ x',
      Sink.flush.run ⟨x, none, none⟩ = ⟨.ok (), ⟨x', none, none⟩, []⟩ :=
    fun x => ⟨x, Sink.run_flush_of_none rfl⟩
  exact .of_onSink hrun hrun

/-- The findings of a file are reported alike in all styles. -/
theorem reportKept_alike (style other : Style) (findings : List Finding) :
    Alike (Session.onSink (reportKept style findings) : Attempt (Session W) Unit)
      (Session.onSink (reportKept other findings)) := by
  rw [Style.reportKept_eq_writeAll, Style.reportKept_eq_writeAll]
  exact writeAll_alike _ _

/-- So is the end of a file. -/
theorem fileFinished_alike (style other : Style) (file : String) (findings : List Finding) :
    Alike (Session.onSink (style.fileFinished file findings) : Attempt (Session W) Unit)
      (Session.onSink (other.fileFinished file findings)) := by
  unfold Style.fileFinished
  rw [Session.onSink_bind, Session.onSink_bind]
  exact (writeAll_alike _ _).bind fun _ => flush_alike

/-- A file is checked alike in all styles. -/
theorem check_alike (engine : Engine W) (style other : Style) (provider : Vcs.Provider W)
    (file : String) :
    Alike ((engine.withStyle style).check provider file)
      ((engine.withStyle other).check provider file) := by
  unfold check
  refine (Alike.ask _ _).bind fun lines => (Alike.log _ _).bind fun _ => ?_
  refine (Alike.ask _ _).bind fun report => ?_
  -- The theme comes in only here, where the findings are written.
  refine (reportKept_alike style other _).bind fun _ => ?_
  exact (fileFinished_alike style other file _).bind fun _ => .pure _

/-- Files are checked alike, one after the other. -/
theorem checkAll_alike (engine : Engine W) (style other : Style) (provider : Vcs.Provider W)
    (files : List String) :
    Alike ((engine.withStyle style).checkAll provider files)
      ((engine.withStyle other).checkAll provider files) := by
  -- By induction on the files; each check leaves other bytes, which the comparison does not see.
  induction files with
  | nil => exact .pure 0
  | cons file files ih =>
    unfold checkAll
    refine (check_alike engine style other provider file).bind fun here => ?_
    exact ih.bind fun there => .pure _

/-- Whole runs are alike in all styles. -/
theorem runWith_alike (engine : Engine W) (style other : Style)
    (providers : List (Vcs.Provider W)) :
    Alike ((engine.withStyle style).runWith providers)
      ((engine.withStyle other).runWith providers) := by
  unfold runWith
  refine (Alike.onWorld _).bind fun provider => ?_
  unfold runOver
  refine (Alike.log _ _).bind fun _ => (Alike.ask _ _).bind fun files => ?_
  refine (checkAll_alike engine style other provider files).bind fun total => ?_
  exact (Alike.log _ _).bind fun _ => .pure _

/-- The engine with another theme. -/
def withTheme (engine : Engine W) (theme : Theme) : Engine W :=
  engine.withStyle { engine.style with theme := theme }

/-- Two runs in different themes, on writers that take everything, make the same calls in the same
order, log the same, leave the same world, and answer the same.  If the visited files and the
linter's reports on them have no escape character, what a run writes in any theme is, when its
escape sequences are taken off, what it writes in the theme `off`.  This also holds for each
line, and the report in the theme `off` has no escape character. -/
theorem runWith_themes (engine : Engine W) (providers : List (Vcs.Provider W)) (world : W) :
    let run := fun theme => ((engine.withTheme theme).runWith providers).run ⟨world, .unlimited⟩
    (∀ first second, (run first).answer = (run second).answer ∧
      (run first).events = (run second).events ∧
      (run first).world.world = (run second).world.world) ∧
    ∃ calls visits answer after,
      Conducts engine providers world calls visits answer after ∧
      ((∀ visit ∈ visits,
          Report.escape ∉ visit.file.toList ∧ Report.escape ∉ visit.report.toList) →
        ∀ theme,
          let painted := (run theme).world.sink.text.toList
          let plain := (run .off).world.sink.text.toList
          Report.stripped painted = plain ∧
            (Text.splitWhere (· == '\n') painted).map Report.stripped
              = Text.splitWhere (· == '\n') plain ∧
            Report.escape ∉ plain) := by
  intro run
  constructor
  · intro first second
    -- Both runs are compared from the empty sink on.
    obtain ⟨answer, last, events, _, _, hfirst, hsecond⟩ :=
      runWith_alike engine { engine.style with theme := first }
        { engine.style with theme := second } providers world [] []
    have hfirst : run first = _ := hfirst
    have hsecond : run second = _ := hsecond
    rw [hfirst, hsecond]
    exact ⟨rfl, rfl, rfl⟩
  · obtain ⟨calls, visits, answer, after, hconducts⟩ := exists_conducts engine providers world
    refine ⟨calls, visits, answer, after, hconducts, ?_⟩
    intro hclean theme painted plain
    -- The visits are the same in all themes, and the text is that of their rows.
    have htext : ∀ theme, (run theme).world.sink.text.toList
        = Text.unlines (Style.reportRows { engine.style with theme := theme } visits) := by
      intro theme
      obtain ⟨events, hrun⟩ :=
        run_of_conducts (hconducts.withStyle { engine.style with theme := theme })
      have hrun : run theme = _ := hrun
      have hwritten : (run theme).world.sink.written
          = Style.report { engine.style with theme := theme } visits := by
        rw [hrun]
        exact List.nil_append _
      rw [Sink.text_of_report hwritten, String.toList_ofList]
    -- So what is to be shown is a fact about the rows of the same visits.
    have hshows : Report.Shows painted plain := by
      show Report.Shows (run theme).world.sink.text.toList (run .off).world.sink.text.toList
      rw [htext, htext]
      exact Report.shows_reportRows theme engine.style.layout hclean
    exact ⟨hshows.stripped_eq, hshows.map_stripped_splitWhere, hshows.not_escape⟩

end Engine

end ChangeLint
